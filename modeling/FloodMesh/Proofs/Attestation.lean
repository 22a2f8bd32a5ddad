/-
Readings and faults are genuine.

Every occurrence of a run is explained by what was on record before it: a
request comes from its station's poller, and a frame that is taken is a copy of
something put on the air, handled by the node that was at the station from the
start. Explanations chain back from a queued reading or a reported fault over
the reply to the read of one probe, and from there to a request of the very
controller.
-/

import FloodMesh.Proofs.AtMostOnce

namespace FloodMesh

open Traffic

/-! ### What is on record -/

def Traffic.Occurrence.readsAt (station : Nat) : Occurrence → Nat
  | .requested _ _ => 0
  | .heard _ event => if event.index = station then readsIn event.effects else 0

def readsAt (station : Nat) (past : List Occurrence) : Nat :=
  (past.map (Occurrence.readsAt station)).sum

private theorem readsAt_append (station : Nat) (past more : List Occurrence) :
    readsAt station (past ++ more) = readsAt station past + readsAt station more := by
  unfold readsAt
  rw [List.map_append, List.sum_append]

def Pushed (past : List Occurrence) (station : Nat) (entry : Entry) : Prop :=
  ∃ frame event, .heard frame event ∈ past ∧ event.index = station ∧
    .queued entry ∈ event.effects

/-- The moves in which other tasks of a node leave its address and its probe
alone and add nothing to its queue. Everything else of the node may change. -/
def Traffic.Loyal (traffic : Traffic) : Move → Prop
  | .tends station node =>
      ∀ before, traffic.mesh.nodes[station]? = some before →
        node.address = before.address ∧ node.duty = before.duty ∧
          node.queue.entries ⊆ before.queue.entries
  | _ => True

/-- What an occurrence says about the start of a run and what was on record before
it. A request comes from its station's own address. A frame that is taken is a
copy of an origination, and the node that works on it is the one from the start
but for the reads of its probe. -/
inductive Explained (start : Traffic) (before : List Occurrence) : Occurrence → Prop
  | requested {station : Nat} {node : Node} {request : Packet}
      (found : start.mesh.nodes[station]? = some node) (asks : request.kind = .request)
      (src : request.src = node.address) :
      Explained start before (.requested station request.frame)
  | heard {frame : Bytes} {event : Mesh.Event} {node now : Node} {surroundings : Surroundings}
      {copy : Copy} {ring : Ring} (found : start.mesh.nodes[event.index]? = some node)
      (address : now.address = node.address)
      (duty : now.duty = node.duty.readOn (readsAt event.index before))
      (bears : Bears (originated before) frame copy)
      (course : Course now surroundings frame event.outcome (deeds event.effects) ring) :
      Explained start before (.heard frame event)

def Justified (start : Traffic) (past : List Occurrence) : Prop :=
  ∀ before occurrence, before ++ [occurrence] <+: past → Explained start before occurrence

private theorem Justified.of_prefix {start : Traffic} {past earlier : List Occurrence}
    (justified : Justified start past) (kept : earlier <+: past) : Justified start earlier :=
  fun before occurrence split => justified before occurrence (split.trans kept)

private theorem Justified.concat {start : Traffic} {past : List Occurrence}
    (justified : Justified start past) {newest : Occurrence}
    (new : Explained start past newest) : Justified start (past ++ [newest]) := by
  intro before occurrence split
  rcases List.prefix_concat_iff.mp split with last | old
  · obtain ⟨beforeEq, occurrenceEq⟩ := List.append_inj' last rfl
    cases occurrenceEq
    rw [beforeEq]
    exact new
  · exact justified before occurrence old

def Sending.request? : Sending → Option Packet
  | .starting => none
  | .composed request => some request
  | .accepted request => some request
  | .numbered request => some request

def Requests (start : Traffic) (station : Nat) (request : Packet) : Prop :=
  request.kind = .request ∧
    ∃ node : Node, start.mesh.nodes[station]? = some node ∧ request.src = node.address

structure Explains (start : Traffic) (past : List Occurrence) (traffic : Traffic) : Prop where
  nodes : ∀ station (now : Node), traffic.mesh.nodes[station]? = some now →
    ∃ node : Node, start.mesh.nodes[station]? = some node ∧ now.address = node.address ∧
      now.duty = node.duty.readOn (readsAt station past)
  queues : ∀ station (now : Node), traffic.mesh.nodes[station]? = some now →
    ∀ entry ∈ now.queue.entries,
      (∃ node : Node, start.mesh.nodes[station]? = some node ∧ entry ∈ node.queue.entries) ∨
        Pushed past station entry
  senders : ∀ sender ∈ traffic.senders, ∀ request, sender.sending.request? = some request →
    Requests start sender.station request
  justified : Justified start past

private theorem explains_start {start : Traffic} (idle : start.senders = []) :
    Explains start [] start := by
  constructor
  · intro station now found
    exact ⟨now, found, rfl, (Duty.readOn_zero _).symm⟩
  · intro station now found entry lies
    exact .inl ⟨now, found, lies⟩
  · intro sender present
    rw [idle] at present
    cases present
  · intro before occurrence earlier
    have short := earlier.length_le
    rw [List.length_append] at short
    cases short

/-! ### One step -/

private theorem Pushed.mono {past : List Occurrence} {station : Nat} {entry : Entry}
    (pushed : Pushed past station entry) (more : List Occurrence) :
    Pushed (past ++ more) station entry := by
  obtain ⟨frame, event, present, rest⟩ := pushed
  exact ⟨frame, event, List.mem_append_left _ present, rest⟩

/-- If one node changed only by what is on record now, explanations go on. -/
theorem Explains.extend {start traffic : Traffic} {past more : List Occurrence}
    (explains : Explains start past traffic) {medium : Medium} {senders : List Sender}
    {station : Nat} {node after : Node} (found : traffic.mesh.nodes[station]? = some node)
    (address : after.address = node.address)
    (duty : after.duty = node.duty.readOn (readsAt station more))
    (elsewhere : ∀ other, other ≠ station → readsAt other more = 0)
    (queue : ∀ entry ∈ after.queue.entries,
      entry ∈ node.queue.entries ∨ Pushed more station entry)
    (sending : ∀ sender ∈ senders, ∀ request, sender.sending.request? = some request →
      Requests start sender.station request)
    (justified : Justified start (past ++ more)) :
    Explains start (past ++ more) (traffic.worked medium station after senders) := by
  have within := (List.getElem?_eq_some_iff.mp found).1
  constructor
  · intro other now nowFound
    by_cases same : station = other
    · subst same
      rw [Traffic.worked, List.getElem?_set_self within] at nowFound
      cases nowFound
      obtain ⟨first, firstFound, firstAddress, firstDuty⟩ := explains.nodes station node found
      refine ⟨first, firstFound, address.trans firstAddress, ?_⟩
      rw [duty, firstDuty, readsAt_append, Duty.readOn_add]
    · rw [Traffic.worked, List.getElem?_set_ne same] at nowFound
      rw [readsAt_append, elsewhere other fun equal => same equal.symm]
      exact explains.nodes other now nowFound
  · intro other now nowFound entry lies
    by_cases same : station = other
    · subst same
      rw [Traffic.worked, List.getElem?_set_self within] at nowFound
      cases nowFound
      rcases queue entry lies with old | ⟨frame, event, present, rest⟩
      · exact (explains.queues station node found entry old).imp id fun pushed =>
          pushed.mono more
      · exact .inr ⟨frame, event, List.mem_append_right _ present, rest⟩
    · rw [Traffic.worked, List.getElem?_set_ne same] at nowFound
      exact (explains.queues other now nowFound entry lies).imp id fun pushed =>
        pushed.mono more
  · exact sending
  · exact justified

/-- A sender's turn changes nothing that explanations speak of, and what it
composes or sends is a request of its station. -/
theorem Traffic.Turned.loyal {start : Traffic} {sender : Sender} {node after : Node}
    {frames : List Bytes} {next : Option Sending}
    (turn : Turned sender.errand node sender.sending frames after next)
    (own : ∃ first, start.mesh.nodes[sender.station]? = some first ∧
      node.address = first.address)
    (before : ∀ request, sender.sending.request? = some request →
      Requests start sender.station request) :
    after.address = node.address ∧ after.duty = node.duty ∧ after.queue = node.queue ∧
      (∀ sending request, next = some sending → sending.request? = some request →
        Requests start sender.station request) ∧
      (frames = [] ∨ ∃ request, frames = [request.frame] ∧
        Requests start sender.station request) := by
  obtain ⟨station, errand, sending⟩ := sender
  simp only at turn own before
  cases turn with
  | composed =>
      refine ⟨rfl, rfl, rfl, ?_, .inl rfl⟩
      intro sending request same asked
      cases same
      cases asked
      exact ⟨rfl, own⟩
  | refused request => exact ⟨rfl, rfl, rfl, fun _ _ same => (by cases same), .inl rfl⟩
  | aired request =>
      refine ⟨rfl, rfl, rfl, ?_, .inr ⟨request, rfl, before request rfl⟩⟩
      intro sending other same asked
      cases same
      exact before other asked
  | numbered request =>
      refine ⟨rfl, rfl, rfl, ?_, .inl rfl⟩
      intro sending other same asked
      cases same
      exact before other asked
  | announced request told => exact ⟨rfl, rfl, rfl, fun _ _ same => (by cases same), .inl rfl⟩
  | unannounced request silent =>
      exact ⟨rfl, rfl, rfl, fun _ _ same => (by cases same), .inl rfl⟩

private theorem Explains.turned {start traffic : Traffic} {past : List Occurrence}
    (explains : Explains start past traffic) {medium : Medium} {which : Nat}
    {sender : Sender} {node after : Node} {frames : List Bytes} {next : Option Sending}
    (present : traffic.senders[which]? = some sender)
    (found : traffic.mesh.nodes[sender.station]? = some node)
    (turn : Turned sender.errand node sender.sending frames after next) :
    Explains start (past ++ frames.map (.requested sender.station))
      (traffic.worked medium sender.station after
        (advanced traffic.senders which sender next)) := by
  obtain ⟨first, firstFound, firstAddress, _⟩ := explains.nodes sender.station node found
  obtain ⟨address, duty, queue, composed, airs⟩ :=
    turn.loyal ⟨first, firstFound, firstAddress⟩
      (explains.senders sender (List.mem_of_getElem? present))
  have unread : ∀ other, readsAt other (frames.map (.requested sender.station)) = 0 := by
    intro other
    rcases airs with silent | ⟨request, single, _⟩
    · rw [silent]
      rfl
    · rw [single]
      rfl
  apply explains.extend found address
  · rw [unread, Duty.readOn_zero]
    exact duty
  · exact fun other _ => unread other
  · intro entry lies
    rw [queue] at lies
    exact .inl lies
  · intro other otherPresent request asked
    rcases mem_advanced otherPresent with old | ⟨sending, goes, new⟩
    · exact explains.senders other old request asked
    · rw [new] at asked ⊢
      exact composed sending request goes asked
  · rcases airs with silent | ⟨request, single, asks, requester, requesterFound, src⟩
    · rw [silent, List.map_nil, List.append_nil]
      exact explains.justified
    · rw [single, List.map_singleton]
      exact explains.justified.concat (.requested requesterFound asks src)

private theorem Explains.heard {start traffic : Traffic} {past : List Occurrence}
    (explains : Explains start past traffic) {quiet medium : Medium}
    (accounts : Accounts quiet past traffic) {reception : Mesh.Reception} {node : Node}
    {first : Bytes} {rest : List Bytes}
    (found : traffic.mesh.nodes[reception.index]? = some node)
    (waits : traffic.mesh.medium.waitingAt reception.index = first :: rest)
    (attached : reception.index < traffic.mesh.medium.stations.length) :
    Explains start (past ++ [.heard first (reception.event node first)])
      (traffic.worked medium reception.index (reception.reaction node first).node
        traffic.senders) := by
  obtain ⟨copy, _, bears, _, whole⟩ := accounts.oldest waits (by rwa [← accounts.length])
  obtain ⟨origin, originFound, originAddress, originDuty⟩ :=
    explains.nodes reception.index node found
  have worked := node.worked_process reception.surroundings (first.take Inbox.bufferLength)
  have course := course_process node reception.surroundings (first.take Inbox.bufferLength)
  have readsEq : readsAt reception.index [.heard first (reception.event node first)] =
      readsIn (deeds (reception.reaction node first).effects) := by
    rw [readsIn_deeds]
    simp [readsAt, Occurrence.readsAt, Mesh.Reception.event]
  apply explains.extend found
  · exact (node.process_keeps reception.surroundings (first.take Inbox.bufferLength)).1
  · rw [readsEq]
    exact worked.duty
  · intro other different
    have elsewhere : reception.index ≠ other := fun same => different same.symm
    simp [readsAt, Occurrence.readsAt, Mesh.Reception.event, elsewhere]
  · intro entry lies
    refine (worked.queue entry lies).imp id fun told => ?_
    exact ⟨first, reception.event node first, List.mem_singleton_self _, rfl,
      mem_of_mem_deeds told⟩
  · exact explains.senders
  · apply explains.justified.concat
    -- The radio hands over the whole frame, so the node works on what was put on the air.
    rw [whole, ← bears.frame] at course
    have reactionEq : node.process reception.surroundings first =
        reception.reaction node first := by
      rw [Mesh.Reception.reaction, whole, ← bears.frame]
    rw [reactionEq] at course
    exact .heard originFound originAddress originDuty bears course

private theorem Explains.unseen {start traffic : Traffic} {past : List Occurrence}
    (explains : Explains start past traffic) {station : Nat} {after : Node}
    (loyal : traffic.Loyal (.tends station after)) :
    Explains start (past ++ [])
      (traffic.worked traffic.mesh.medium station after traffic.senders) := by
  cases found : traffic.mesh.nodes[station]? with
  | none =>
      unfold Traffic.worked
      rw [List.set_eq_of_length_le (List.getElem?_eq_none_iff.mp found), List.append_nil]
      exact explains
  | some node =>
      obtain ⟨address, duty, queue⟩ := loyal node found
      apply explains.extend found address
      · exact duty.trans (Duty.readOn_zero _).symm
      · exact fun _ _ => rfl
      · exact fun entry lies => .inl (queue lies)
      · exact explains.senders
      · rw [List.append_nil]
        exact explains.justified

private theorem Explains.began {start traffic : Traffic} {past : List Occurrence}
    (explains : Explains start past traffic) (station : Nat) (errand : Errand) :
    Explains start (past ++ [])
      { traffic with senders := traffic.senders ++ [{ station, errand }] } := by
  rw [List.append_nil]
  refine { explains with senders := ?_ }
  intro sender present request asked
  rcases List.mem_append.mp present with old | new
  · exact explains.senders sender old request asked
  · rw [List.mem_singleton.mp new] at asked
    cases asked

private theorem Explains.advance {start traffic later : Traffic} {past more : List Occurrence}
    {move : Move} (explains : Explains start past traffic) {quiet : Medium}
    (accounts : Accounts quiet past traffic) (loyal : traffic.Loyal move)
    (advance : Advance traffic move more later) : Explains start (past ++ more) later := by
  cases advance with
  | began station errand => exact explains.began station errand
  | turned present found turn possible moved => exact explains.turned present found turn
  | heard found waits attached moved => exact explains.heard accounts found waits attached
  | tended station node => exact explains.unseen loyal

/-- Everything on the record of a loyal run is explained. -/
theorem Traffic.Run.explains {start later : Traffic} {past : List Occurrence}
    (run : Run Loyal start past later) (quiet : start.Quiet) (idle : start.senders = []) :
    Explains start past later := by
  induction run with
  | start => exact explains_start idle
  | step run permitted stepped ih =>
      have accounts := run.accounts quiet
      exact ih.advance accounts permitted (advance_of_step accounts.unlimited stepped)

/-! ### Back to the read and to the request -/

/-- The sensor of this address read this while it dispatched a request addressed
to it, which is the one that the asking station's poller had put on the air but
for the hops it has left. The read is the next one of the sensor's own probe. -/
inductive ReadFor (start : Traffic) (past : List Occurrence) (asker : Nat) (sensor : Address) :
    ProbeAnswer → Prop
  | intro {before : List Occurrence} {frame : Bytes} {event : Mesh.Event}
      {node controller : Node} {probe : Probe} {request sent : Packet}
      (dispatched : before ++ [.heard frame event] <+: past)
      (handled : event.outcome.isDispatch = true)
      (sensing : start.mesh.nodes[event.index]? = some node) (address : node.address = sensor)
      (duty : node.duty = .sensor probe)
      (read : .probed (probe.answers (probe.reads + readsAt event.index before)) ∈
        event.effects)
      (decodes : Packet.decode frame = .ok request) (dest : request.dest = sensor)
      (asks : request.kind = .request)
      (asking : start.mesh.nodes[asker]? = some controller)
      (src : request.src = controller.address)
      (requested : .requested asker sent.frame ∈ before)
      (same : request = { sent with hops := request.hops }) :
      ReadFor start past asker sensor
        (probe.answers (probe.reads + readsAt event.index before))

private theorem exists_of_originated {past : List Occurrence} {origin : Origin}
    (member : origin ∈ originated past) :
    ∃ before occurrence, before ++ [occurrence] <+: past ∧ origin ∈ occurrence.origins := by
  obtain ⟨occurrence, present, came⟩ := List.mem_flatMap.mp member
  obtain ⟨before, after, split⟩ := List.append_of_mem present
  refine ⟨before, occurrence, ⟨after, ?_⟩, came⟩
  rw [split]
  simp

/-- Where an origination comes from: it is a request of its station, or the reply
of a sensor that has just read its probe for a request addressed to it. -/
inductive Rooted (start : Traffic) (before : List Occurrence) : Occurrence → Origin → Prop
  | requested {origin : Origin} (requests : Requests start origin.station origin.packet) :
      Rooted start before (.requested origin.station origin.packet.frame) origin
  | replied {frame : Bytes} {event : Mesh.Event} {node : Node} {probe : Probe} {copy : Copy}
      {origin : Origin} {answer : ProbeAnswer}
      (answerEq : answer = probe.answers (probe.reads + readsAt event.index before))
      (found : start.mesh.nodes[event.index]? = some node) (duty : node.duty = .sensor probe)
      (bears : Bears (originated before) frame copy)
      (handled : event.outcome.isDispatch = true) (read : .probed answer ∈ event.effects)
      (dest : copy.packet.dest = node.address) (asks : copy.packet.kind = .request)
      (replyDest : origin.packet.dest = copy.packet.src)
      (replySrc : origin.packet.src = node.address)
      (content : origin.packet.content = answer.content) :
      Rooted start before (.heard frame event) origin

private theorem Explained.rooted {start : Traffic} {before : List Occurrence}
    {occurrence : Occurrence} (explained : Explained start before occurrence)
    {origin : Origin} (came : origin ∈ occurrence.origins) :
    Rooted start before occurrence origin := by
  cases explained with
  | @requested station node request found asks src =>
      rw [Occurrence.origins, Origin.read?_frame] at came
      have same : origin = { station, packet := request } := List.mem_singleton.mp came
      have requests : Requests start origin.station origin.packet := by
        rw [same]
        exact ⟨asks, node, found, src⟩
      have rooted : Rooted start before _ origin := .requested requests
      rw [same] at rooted ⊢
      exact rooted
  | @heard frame event node now surroundings copy ring found address duty bears course =>
      obtain ⟨index, outcome, effects⟩ := event
      simp only at found duty course
      generalize visible : deeds effects = done at course
      cases course with
      | @replied packet probe admitted own sensing asked accepted =>
          have frames : sentFrames effects = [(now.reply packet probe.read.1).frame] := by
            rw [← sentFrames_deeds, visible]
            rfl
          simp only [Occurrence.origins, Mesh.Event.origins, frames, List.filterMap_cons,
            List.filterMap_nil, Origin.read?_frame, List.mem_singleton] at came
          rw [bears.frame] at admitted
          obtain ⟨rfl, _⟩ := Copy.eq_of_admitted admitted
          obtain ⟨first, firstDuty, probeEq⟩ := Duty.of_readOn_sensor (duty.symm.trans sensing)
          have read : .probed probe.read.1 ∈ effects := by
            apply mem_of_mem_deeds
            rw [visible]
            exact List.mem_cons_self
          have answerEq : probe.read.1 = first.answers (first.reads + readsAt index before) := by
            rw [probeEq]
            rfl
          subst came
          exact .replied answerEq found firstDuty bears rfl read (own.trans address) asked rfl
            address rfl
      -- A frame passed on is no origination, and the other courses send none.
      | dropped | forwarded | forwardFailed | queued | reported | ignored | replyFailed =>
          cases came

/-- Every reply under way answers a request of one station's poller. -/
theorem Justified.readFor {start : Traffic} {past : List Occurrence}
    (justified : Justified start past) {origin : Origin}
    (member : origin ∈ originated past) (replies : origin.packet.kind ≠ .request) :
    ∃ asker controller answer, start.mesh.nodes[asker]? = some controller ∧
      origin.packet.dest = controller.address ∧ origin.packet.content = answer.content ∧
        ReadFor start past asker origin.packet.src answer := by
  obtain ⟨before, occurrence, split, came⟩ := exists_of_originated member
  cases (justified before occurrence split).rooted came with
  | requested requests => exact absurd requests.1 replies
  | @replied frame event node probe copy _ answer answerEq found duty bears handled read dest
      asks replyDest replySrc content =>
      -- The request that was answered is no reply, so a poller put it on the air.
      obtain ⟨earlier, first, firstSplit, firstCame⟩ := exists_of_originated bears.origin
      have firstKept : earlier ++ [first] <+: past :=
        firstSplit.trans ((List.prefix_append before [.heard frame event]).trans split)
      cases (justified earlier first firstKept).rooted firstCame with
      | replied _ _ _ _ _ _ _ _ _ _ firstContent =>
          have replyKind : copy.packet.kind ≠ .request := by
            rw [Packet.kind, Copy.packet, firstContent]
            exact ProbeAnswer.kind_content _
          exact absurd asks replyKind
      | requested requests =>
          obtain ⟨_, controller, asking, src⟩ := requests
          have requested : .requested copy.origin.station copy.origin.packet.frame ∈ before :=
            firstSplit.subset (List.mem_append_right _ (List.mem_singleton_self _))
          refine ⟨copy.origin.station, controller, answer, asking, replyDest.trans src,
            content, ?_⟩
          rw [answerEq] at read ⊢
          refine .intro split handled found replySrc.symm duty read ?_
            (dest.trans replySrc.symm) asks asking src requested rfl
          rw [bears.frame, Packet.decode_frame]

/-- What a controller makes of a reply was read for a request of its own poller. -/
theorem Justified.genuine {start : Traffic} {past : List Occurrence}
    (justified : Justified start past)
    (distinct : (start.mesh.nodes.map Node.address).Nodup) {node now : Node} {index : Nat}
    {copy : Copy} (found : start.mesh.nodes[index]? = some node)
    (address : now.address = node.address) (member : copy.origin ∈ originated past)
    (own : copy.packet.dest = now.address) (replies : copy.packet.kind ≠ .request) :
    ∃ answer, copy.packet.content = answer.content ∧
      ReadFor start past index copy.packet.src answer := by
  obtain ⟨asker, controller, answer, asking, dest, content, reads⟩ :=
    justified.readFor member replies
  have same : asker = index := by
    apply index_eq_of_address distinct asking found
    rw [← dest, ← address, ← own]
    rfl
  rw [same] at reads
  exact ⟨answer, content, reads⟩

/-- A queued reading is one that the sensor it names read for this controller. -/
theorem Explained.queued {start : Traffic} {before : List Occurrence} {frame : Bytes}
    {event : Mesh.Event} (explained : Explained start before (.heard frame event))
    (justified : Justified start before)
    (distinct : (start.mesh.nodes.map Node.address).Nodup) {entry : Entry}
    (pushed : .queued entry ∈ event.effects) :
    ∃ controller, start.mesh.nodes[event.index]? = some controller ∧
      controller.duty = .controller ∧ entry.dest = controller.address ∧
        ReadFor start before event.index entry.src (.ok entry.data) := by
  have done : .queued entry ∈ deeds event.effects := List.mem_filter.mpr ⟨pushed, rfl⟩
  cases explained with
  | @heard _ _ node now surroundings copy ring found address duty bears course =>
      generalize deeds event.effects = visible at course done
      generalize event.outcome = outcome at course
      cases course with
      | @queued packet data pushedEntry admitted own controls content entryEq =>
          rw [bears.frame] at admitted
          obtain ⟨rfl, _⟩ := Copy.eq_of_admitted admitted
          cases List.mem_singleton.mp done
          have replies : copy.packet.kind ≠ .request := by
            rw [Packet.kind, content]
            exact fun same => by cases same
          obtain ⟨answer, answerEq, read⟩ :=
            justified.genuine distinct found address bears.origin own replies
          rw [content] at answerEq
          refine ⟨node, found, Duty.of_readOn_controller (duty.symm.trans controls), ?_, ?_⟩
          · rw [entryEq]
            exact own.trans address
          · cases answer with
            | error fault => cases answerEq
            | ok value =>
                cases answerEq
                rw [entryEq]
                exact read
      | dropped | forwarded | forwardFailed | reported | ignored | replied | replyFailed =>
          simp at done

/-- A reported fault is one that the sensor it is reported of met when it read for
this controller. -/
theorem Explained.reported {start : Traffic} {before : List Occurrence} {frame : Bytes}
    {event : Mesh.Event} (explained : Explained start before (.heard frame event))
    (justified : Justified start before)
    (distinct : (start.mesh.nodes.map Node.address).Nodup) {address : Address} {code : UInt8}
    (told : .notified address (.faultReported code) ∈ event.effects) :
    ∃ controller, start.mesh.nodes[event.index]? = some controller ∧
      controller.duty = .controller ∧
        ∃ fault : ProbeFault, fault.code = code ∧
          ReadFor start before event.index address (.error fault) := by
  have done : .notified address (.faultReported code) ∈ deeds event.effects :=
    List.mem_filter.mpr ⟨told, rfl⟩
  cases explained with
  | @heard _ _ node now surroundings copy ring found sameAddress duty bears course =>
      generalize deeds event.effects = visible at course done
      generalize event.outcome = outcome at course
      cases course with
      | @reported packet toldCode admitted own controls content =>
          rw [bears.frame] at admitted
          obtain ⟨rfl, _⟩ := Copy.eq_of_admitted admitted
          cases List.mem_singleton.mp done
          have replies : copy.packet.kind ≠ .request := by
            rw [Packet.kind, content]
            exact fun same => by cases same
          obtain ⟨answer, answerEq, read⟩ :=
            justified.genuine distinct found sameAddress bears.origin own replies
          rw [content] at answerEq
          refine ⟨node, found, Duty.of_readOn_controller (duty.symm.trans controls), ?_⟩
          cases answer with
          | error fault =>
              cases answerEq
              exact ⟨fault, rfl, read⟩
          | ok value => cases answerEq
      | dropped | forwarded | forwardFailed | queued | ignored | replied | replyFailed =>
          simp at done

/-- Whatever moves a loyal run makes, each reading that a controller queues is
addressed to it and was read by the sensor it names for a request of that very
controller, each fault that it reports was met in such a read, and no queue holds
anything else but what it held from the start. -/
theorem Traffic.Run.genuine_readings {start later : Traffic} {past : List Occurrence}
    (run : Run Loyal start past later) (quiet : start.Quiet) (idle : start.senders = [])
    (distinct : (start.mesh.nodes.map Node.address).Nodup) :
    (∀ before frame event, before ++ [.heard frame event] <+: past →
      (∀ entry, .queued entry ∈ event.effects →
        ∃ controller, start.mesh.nodes[event.index]? = some controller ∧
          controller.duty = .controller ∧ entry.dest = controller.address ∧
            ReadFor start before event.index entry.src (.ok entry.data)) ∧
      (∀ address code, .notified address (.faultReported code) ∈ event.effects →
        ∃ controller, start.mesh.nodes[event.index]? = some controller ∧
          controller.duty = .controller ∧
            ∃ fault : ProbeFault, fault.code = code ∧
              ReadFor start before event.index address (.error fault))) ∧
    ∀ station (now : Node), later.mesh.nodes[station]? = some now →
      ∀ entry ∈ now.queue.entries,
        (∃ node : Node, start.mesh.nodes[station]? = some node ∧ entry ∈ node.queue.entries) ∨
          Pushed past station entry := by
  have explains := run.explains quiet idle
  refine ⟨?_, explains.queues⟩
  intro before frame event split
  have explained := explains.justified before _ split
  have earlier := explains.justified.of_prefix ((List.prefix_append before _).trans split)
  exact ⟨fun entry pushed => explained.queued earlier distinct pushed,
    fun address code told => explained.reported earlier distinct told⟩

/-! ### One poll over a relay -/

def Traffic.Occurrence.entries : Occurrence → List Entry
  | .requested _ _ => []
  | .heard _ event => entriesOf event.effects

private theorem Traffic.loyal_of_settled (traffic : Traffic) (move : Move)
    (settled : traffic.settled move = true) : traffic.Loyal move := by
  cases move with
  | begins | proceeds | hears => exact trivial
  | tends station node => cases settled

theorem Traffic.Run.genuine_readings_pollChain :
    ∃ past later before frame event entry,
      pollChain.follow? Traffic.settled pollMoves = some (past, later) ∧
        before ++ [.heard frame event] = past ∧ .queued entry ∈ event.effects ∧
        entry.src = .numbered 2 ∧
        ∃ controller, pollChain.mesh.nodes[event.index]? = some controller ∧
          controller.duty = .controller ∧ entry.dest = controller.address ∧
            ReadFor pollChain before event.index entry.src (.ok entry.data) := by
  have ran : (pollChain.follow? Traffic.settled pollMoves).isSome = true := by decide +kernel
  obtain ⟨⟨past, later⟩, followed⟩ := Option.isSome_iff_exists.mp ran
  have ends : (pollChain.follow? Traffic.settled pollMoves).map (fun result =>
      (result.1.getLast?.map Occurrence.entries).map fun entries => entries.map Entry.src) =
        some (some [.numbered 2]) := by decide +kernel
  rw [followed] at ends
  obtain ⟨entries, lastEntries, named⟩ := Option.map_eq_some_iff.mp (Option.some.inj ends)
  obtain ⟨occurrence, last, entriesEq⟩ := Option.map_eq_some_iff.mp lastEntries
  obtain ⟨entry, only, src⟩ := List.map_eq_singleton_iff.mp named
  obtain ⟨before, split⟩ := List.getLast?_eq_some_iff.mp last
  have run : Run Loyal pollChain past later :=
    (Run.start.follow followed).mono fun traffic move => traffic.loyal_of_settled move
  cases occurrence with
  | requested station frame =>
      rw [only] at entriesEq
      cases entriesEq
  | heard frame event =>
      have present : entry ∈ entriesOf event.effects := by
        rw [show entriesOf event.effects = entries from entriesEq, only]
        exact List.mem_singleton_self _
      obtain ⟨effect, done, entryEq⟩ := List.mem_filterMap.mp present
      have pushed : .queued entry ∈ event.effects := by
        cases effect with
        | queued other =>
            cases entryEq
            exact done
        | saved | sent | notified | probed | delivered => cases entryEq
      have genuine := run.genuine_readings quiet_pollChain rfl blank_pollChain.addresses
      exact ⟨past, later, before, frame, event, entry, followed, split.symm, pushed, src,
        (genuine.1 before frame event ⟨[], by rw [List.append_nil]; exact split.symm⟩).1
          entry pushed⟩

end FloodMesh
