/-
How far one poll reaches.

If frames are taken in the order of the air, the request floods the mesh and
then, with the hops that are left of it, the reply does. Both floods spread
breadth first, so whether the sensor gets the request and whether the controller
gets the reply is decided by the distance between the two.
-/

import FloodMesh.Proofs.Query

namespace FloodMesh

open Traffic

namespace Query

variable {query : Query} {start : Traffic}

/-! ### One copy is taken -/

structure Hearing (query : Query) (start : Traffic) (past : List Occurrence)
    (traffic : Traffic) (flight : Flight) (rest : List Flight) (asks replies : List Visit)
    (node after : Node) (outcome : Outcome) (effects : List Effect) (sent : Option Packet)
    (learnt : List Fingerprint) (medium : Medium) (order : List Nat) : Prop where
  posed : query.Posed start
  going : query.Going start past traffic (flight :: rest) asks replies
  found : traffic.mesh.nodes[flight.station]? = some node
  meets : node.Meets query.marks flight.packet after outcome effects sent learnt
  aloft : Aloft medium (rest ++ launch sent order)
  hearers : ∀ station ∈ order, start.mesh.medium.graph.Adj flight.station station
  reaches : sent ≠ none → ∀ station,
    start.mesh.medium.graph.Adj flight.station station → station ∈ order

namespace Hearing

variable {past : List Occurrence} {traffic : Traffic} {flight : Flight} {rest : List Flight}
  {asks replies : List Visit} {node after : Node} {outcome : Outcome} {effects : List Effect}
  {sent : Option Packet} {learnt : List Fingerprint} {medium : Medium} {order : List Nat}

section

variable
  (hearing : Hearing query start past traffic flight rest asks replies node after outcome
    effects sent learnt medium order)

include hearing

private theorem copies
    (copied : ∀ packet, sent = some packet →
      ∃ hops, packet = query.copy hops ∨ packet = query.reply hops) :
    ∀ other ∈ rest ++ launch sent order,
      ∃ hops, other.packet = query.copy hops ∨ other.packet = query.reply hops := by
  intro other member
  rcases List.mem_append.mp member with old | new
  · exact hearing.going.copies other (List.mem_cons_of_mem _ old)
  · cases sent with
    | none => cases new
    | some packet =>
        obtain ⟨station, _, otherEq⟩ := List.mem_map.mp new
        rw [← otherEq]
        exact copied packet rfl

private theorem sites_dropped (unlearnt : learnt = []) (unhandled : outcome.isDispatch = false) :
    query.Sites start asks replies (traffic.mesh.nodes.set flight.station after) := by
  have same : ∀ mark, after.Knows mark ↔ node.Knows mark := by
    intro mark
    rw [hearing.meets.knows, unlearnt]
    simp
  have kept {mark : Fingerprint} {origin : Nat} {acted : List Visit}
      (known : Known mark origin acted traffic.mesh.nodes) :
      Known mark origin (acted ++ []) (traffic.mesh.nodes.set flight.station after) :=
    known.work hearing.found (same mark).mpr (fun knows => .inl ((same mark).mp knows))
      fun act impossible => by cases impossible
  have sites := hearing.going.sites.work hearing.found hearing.meets.address
    hearing.meets.roomy hearing.meets.controls (fun _ _ => hearing.meets.idle unhandled)
    (kept hearing.going.sites.asked) (kept hearing.going.sites.answered)
  rwa [List.append_nil, List.append_nil] at sites

private theorem sites_acted (own : flight.packet.fingerprint ∈ learnt)
    (others : ∀ mark ∈ learnt, mark = flight.packet.fingerprint ∨
      (mark = query.replyMark ∧ flight.station = query.asked))
    (unhandled : flight.station = query.asked →
      flight.packet.fingerprint ≠ query.request.fingerprint → outcome.isDispatch = false) :
    query.Sites start (asks ++ visits query.request.fingerprint [flight])
      (replies ++ visits query.replyMark [flight])
      (traffic.mesh.nodes.set flight.station after) := by
  have works {mark : Fingerprint} {origin : Nat} {acted : List Visit}
      (known : Known mark origin acted traffic.mesh.nodes)
      (home : mark = query.replyMark → flight.station = query.asked →
        flight.station = origin) :
      Known mark origin (acted ++ visits mark [flight])
        (traffic.mesh.nodes.set flight.station after) := by
    apply known.work hearing.found
    · exact fun knows => (hearing.meets.knows mark).mpr (.inl knows)
    · intro knows
      rcases (hearing.meets.knows mark).mp knows with old | new
      · exact .inl old
      · rcases others mark new with same | ⟨isReply, here⟩
        · exact .inr (.inr ⟨_, mem_visits_singleton.mpr ⟨rfl, same.symm⟩, rfl⟩)
        · exact .inr (.inl (home isReply here))
    · intro act member
      obtain ⟨actEq, same⟩ := mem_visits_singleton.mp member
      rw [actEq]
      refine ⟨rfl, (hearing.meets.knows mark).mpr (.inr ?_)⟩
      rw [← same]
      exact own
  refine hearing.going.sites.work hearing.found hearing.meets.address hearing.meets.roomy
    hearing.meets.controls ?_ (works hearing.going.sites.asked ?_)
    (works hearing.going.sites.answered fun _ here => here)
  · intro here unasked
    apply hearing.meets.idle
    apply unhandled here
    intro same
    exact unasked _ (mem_visits_singleton.mpr ⟨rfl, same⟩) here
  · exact fun same => absurd same hearing.posed.unlike

private theorem unacted_ask (new : ¬ node.Knows flight.packet.fingerprint)
    (same : flight.packet.fingerprint = query.request.fingerprint) :
    ∀ act ∈ asks, act.station ≠ flight.station := by
  rw [same] at new
  exact hearing.going.sites.asked.unacted hearing.found new

private theorem unacted_reply (new : ¬ node.Knows flight.packet.fingerprint)
    (same : flight.packet.fingerprint = query.replyMark) :
    ∀ act ∈ replies, act.station ≠ flight.station := by
  rw [same] at new
  exact hearing.going.sites.answered.unacted hearing.found new

end

private theorem dropped
    (hearing : Hearing query start past traffic flight rest asks replies node after outcome
      effects none [] medium order)
    (unhandled : outcome.isDispatch = false) (unqueued : entriesOf effects = [])
    (idle : flight.packet.hops = 0 ∨ node.Knows flight.packet.fingerprint) :
    query.Going start
      (past ++ [.heard flight.packet.frame { index := flight.station, outcome, effects }])
      (traffic.worked medium flight.station after traffic.senders)
      (rest ++ launch none order) asks replies := by
  have known {mark : Fingerprint} {origin : Nat} {acted : List Visit}
      (known : Known mark origin acted traffic.mesh.nodes)
      (same : flight.packet.fingerprint = mark) :
      flight.packet.hops = 0 ∨ flight.station = origin ∨
        ∃ act ∈ acted, act.station = flight.station := by
    refine idle.imp id fun knows => ?_
    rw [same] at knows
    exact known.only _ node hearing.found knows
  have recorded : query.Recorded (asks ++ []) (replies ++ [])
      (past ++ [.heard flight.packet.frame { index := flight.station, outcome, effects }]) :=
    hearing.going.recorded.elsewhere unhandled unqueued
      (fun act impossible => by cases impossible) (fun act impossible => by cases impossible)
  refine ⟨hearing.aloft, hearing.copies fun packet impossible => (by cases impossible),
    hearing.sites_dropped rfl unhandled, ?_, ?_, ?_, hearing.going.senders⟩
  · rwa [List.append_nil, List.append_nil] at recorded
  · rw [launch, List.append_nil]
    exact hearing.going.asking.of_dropped (known hearing.going.sites.asked)
  · rw [launch, List.append_nil]
    cases hearing.going.answering with
    | unasked silent unanswered unasked =>
        exact .unasked (nil_of_visits_cons silent).2 unanswered unasked
    | asked member here spread =>
        exact .asked member here (spread.of_dropped (known hearing.going.sites.answered))

private theorem relayed
    (hearing : Hearing query start past traffic flight rest asks replies node after outcome
      effects (some flight.packet.passedOn) [flight.packet.fingerprint] medium order)
    (unhandled : outcome.isDispatch = false) (unqueued : entriesOf effects = [])
    (alive : flight.packet.hops ≠ 0) (new : ¬ node.Knows flight.packet.fingerprint)
    (foreignAsk : flight.packet.fingerprint = query.request.fingerprint →
      flight.station ≠ query.asked)
    (foreignReply : flight.packet.fingerprint = query.replyMark →
      flight.station ≠ query.asker) :
    query.Going start
      (past ++ [.heard flight.packet.frame { index := flight.station, outcome, effects }])
      (traffic.worked medium flight.station after traffic.senders)
      (rest ++ launch (some flight.packet.passedOn) order)
      (asks ++ visits query.request.fingerprint [flight])
      (replies ++ visits query.replyMark [flight]) := by
  have reaches := hearing.reaches (Option.some_ne_none _)
  have sameMark : ∀ packet, some flight.packet.passedOn = some packet →
      packet.fingerprint = flight.packet.fingerprint := by
    intro packet same
    rw [← Option.some.inj same]
    rfl
  have silent {mark : Fingerprint} (different : flight.packet.fingerprint ≠ mark) :
      visits mark (launch (some flight.packet.passedOn) order) = [] :=
    visits_launch_of_ne (fun packet same => by rw [sameMark packet same]; exact different) order
  have newAsks : ∀ act ∈ visits query.request.fingerprint [flight],
      act.station ≠ query.asked := by
    intro act member
    obtain ⟨actEq, same⟩ := mem_visits_singleton.mp member
    rw [actEq]
    exact foreignAsk same
  have newReplies : ∀ act ∈ visits query.replyMark [flight], act.station ≠ query.asker := by
    intro act member
    obtain ⟨actEq, same⟩ := mem_visits_singleton.mp member
    rw [actEq]
    exact foreignReply same
  refine ⟨hearing.aloft, hearing.copies ?_, hearing.sites_acted (List.mem_singleton_self _) ?_ ?_,
    hearing.going.recorded.elsewhere unhandled unqueued newAsks newReplies, ?_, ?_,
    hearing.going.senders⟩
  · intro packet same
    obtain ⟨hops, copied⟩ := hearing.going.copies flight List.mem_cons_self
    refine ⟨hops - 1, ?_⟩
    rw [← Option.some.inj same]
    rcases copied with isCopy | isReply
    · rw [isCopy]
      exact .inl rfl
    · rw [isReply]
      exact .inr rfl
  · exact fun mark member => .inl (List.mem_singleton.mp member)
  · exact fun _ _ => unhandled
  · exact hearing.going.asking.of_acted alive (hearing.unacted_ask new) hearing.hearers
      (fun _ => .inl ⟨rfl, reaches⟩) silent
  · cases hearing.going.answering with
    | unasked nothing unanswered unasked =>
        obtain ⟨different, restNothing⟩ := nil_of_visits_cons nothing
        refine .unasked ?_ ?_ ?_
        · rw [visits_append, restNothing, silent different, List.append_nil]
        · rw [unanswered, List.nil_append, visits_cons_of_ne different]
          rfl
        · intro act member
          exact (List.mem_append.mp member).elim (unasked act) (newAsks act)
    | asked member here spread =>
        exact .asked (List.mem_append_left _ member) here
          (spread.of_acted alive (hearing.unacted_reply new) hearing.hearers
            (fun _ => .inl ⟨rfl, reaches⟩) silent)

/-- The sensor answers the first copy of the request that it acts on. -/
theorem answered {hops : UInt8}
    (hearing : Hearing query start past traffic flight rest asks replies node after outcome
      effects (some (query.reply hops)) [flight.packet.fingerprint, query.replyMark] medium
      order)
    (handled : outcome.isDispatch = true) (unqueued : entriesOf effects = [])
    (alive : flight.packet.hops ≠ 0) (new : ¬ node.Knows flight.packet.fingerprint)
    (copied : flight.packet = query.copy hops) (here : flight.station = query.asked) :
    query.Going start
      (past ++ [.heard flight.packet.frame { index := flight.station, outcome, effects }])
      (traffic.worked medium flight.station after traffic.senders)
      (rest ++ launch (some (query.reply hops)) order)
      (asks ++ visits query.request.fingerprint [flight])
      (replies ++ visits query.replyMark [flight]) := by
  have same : flight.packet.fingerprint = query.request.fingerprint := by
    rw [copied]
    rfl
  have different : flight.packet.fingerprint ≠ query.replyMark := by
    rw [same]
    exact hearing.posed.unlike
  have silent : visits query.request.fingerprint (launch (some (query.reply hops)) order) = [] := by
    apply visits_launch_of_ne
    intro packet packetEq
    rw [← Option.some.inj packetEq]
    exact hearing.posed.unlike.symm
  have oneAsk : visits query.request.fingerprint [flight] = [flight.visit] :=
    visits_cons_of_eq same []
  have noReply : visits query.replyMark [flight] = [] := visits_cons_of_ne different []
  have unasked := hearing.unacted_ask new same
  rw [here] at unasked
  refine ⟨hearing.aloft, hearing.copies ?_, hearing.sites_acted List.mem_cons_self ?_ ?_, ?_,
    ?_, ?_, hearing.going.senders⟩
  · exact fun packet packetEq => ⟨hops, .inr (Option.some.inj packetEq).symm⟩
  · intro mark member
    rcases List.mem_pair.mp member with own | isReply
    · exact .inl own
    · exact .inr ⟨isReply, here⟩
  · exact fun _ other => absurd same other
  · rw [oneAsk, noReply, List.append_nil, copied]
    exact hearing.going.recorded.answered handled unqueued here here
  · exact hearing.going.asking.of_acted alive (hearing.unacted_ask new) hearing.hearers
      (fun _ => .inr ⟨here, silent⟩) (fun other => absurd same other)
  · cases hearing.going.answering with
    | asked member there spread => exact absurd there (unasked _ member)
    | unasked nothing unanswered _ =>
        -- The reply's flood begins here, with the hops that this copy has left.
        rw [oneAsk, noReply, unanswered]
        refine .asked (List.mem_append_right _ (List.mem_singleton_self _)) here ?_
        rw [visits_append, (nil_of_visits_cons nothing).2, List.nil_append]
        have mark : (query.reply hops).fingerprint = query.replyMark := rfl
        apply Spread.of_launched mark
        · rw [Flight.visit, copied]
          rfl
        · intro station
          rw [← here]
          exact ⟨hearing.hearers station, hearing.reaches (Option.some_ne_none _) station⟩

/-- The controller takes the first copy of the reply that it acts on. -/
theorem taken {hops : UInt8}
    (hearing : Hearing query start past traffic flight rest asks replies node after outcome
      effects none [flight.packet.fingerprint] medium order)
    (failed : ∀ fault, query.answer = .error fault → entriesOf effects = [])
    (queued : ∀ data, query.answer = .ok data →
      ∃ entry, entriesOf effects = [entry] ∧ entry.dest = query.controller.address ∧
        entry.src = query.sensor.address ∧ entry.data = data)
    (alive : flight.packet.hops ≠ 0) (new : ¬ node.Knows flight.packet.fingerprint)
    (copied : flight.packet = query.reply hops) (here : flight.station = query.asker) :
    query.Going start
      (past ++ [.heard flight.packet.frame { index := flight.station, outcome, effects }])
      (traffic.worked medium flight.station after traffic.senders)
      (rest ++ launch none order)
      (asks ++ visits query.request.fingerprint [flight])
      (replies ++ visits query.replyMark [flight]) := by
  have same : flight.packet.fingerprint = query.replyMark := by
    rw [copied]
    rfl
  have different : flight.packet.fingerprint ≠ query.request.fingerprint := by
    rw [same]
    exact hearing.posed.unlike.symm
  have noAsk : visits query.request.fingerprint [flight] = [] := visits_cons_of_ne different []
  have oneReply : visits query.replyMark [flight] = [flight.visit] := visits_cons_of_eq same []
  have before := hearing.unacted_reply new same
  rw [here] at before
  refine ⟨hearing.aloft, hearing.copies fun packet impossible => (by cases impossible),
    hearing.sites_acted (List.mem_singleton_self _) ?_ ?_, ?_, ?_, ?_, hearing.going.senders⟩
  · exact fun mark member => .inl (List.mem_singleton.mp member)
  · exact fun there => absurd (here.symm.trans there) hearing.posed.apart
  · rw [noAsk, oneReply, List.append_nil]
    exact hearing.going.recorded.taken hearing.posed.apart here before failed queued here
  · exact hearing.going.asking.of_acted alive (hearing.unacted_ask new) hearing.hearers
      (fun other => absurd other different) (fun _ => rfl)
  · cases hearing.going.answering with
    | unasked nothing _ _ => exact absurd same (nil_of_visits_cons nothing).1
    | asked member there spread =>
        exact .asked (List.mem_append_left _ member) there
          (spread.of_acted alive (hearing.unacted_reply new) hearing.hearers
            (fun _ => .inr ⟨here, rfl⟩) (fun other => absurd same other))

end Hearing

private theorem Posed.neighbours (posed : query.Posed start) {index : Nat}
    (within : index < start.mesh.medium.stations.length) {sent : Option Packet}
    {order : List Nat}
    (ties : order.Perm ((framesOf sent).flatMap fun _ => start.mesh.medium.hearers index)) :
    (∀ station ∈ order, start.mesh.medium.graph.Adj index station) ∧
      (sent ≠ none → ∀ station, start.mesh.medium.graph.Adj index station → station ∈ order) := by
  cases sent with
  | none =>
      rw [ties.eq_nil]
      exact ⟨fun station impossible => (by cases impossible), fun aired => absurd rfl aired⟩
  | some packet =>
      have hearing : order.Perm (start.mesh.medium.hearers index) := by
        simpa [framesOf] using ties
      have same : ∀ station, start.mesh.medium.graph.Adj index station ↔ station ∈ order := by
        intro station
        rw [hearing.mem_iff]
        exact posed.adj_iff within station
      exact ⟨fun station => (same station).mpr, fun _ station => (same station).mp⟩

private theorem reply_kind (query : Query) (hops : UInt8) : (query.reply hops).kind ≠ .request :=
  ProbeAnswer.kind_content _

private theorem Going.mark_mem {past : List Occurrence} {traffic : Traffic} {flight : Flight}
    {rest : List Flight} {asks replies : List Visit}
    (going : query.Going start past traffic (flight :: rest) asks replies) :
    flight.packet.fingerprint ∈ query.marks := by
  obtain ⟨hops, copied | copied⟩ := going.copies flight List.mem_cons_self
  · rw [copied]
    exact List.mem_cons_self
  · rw [copied]
    exact List.mem_cons_of_mem _ (List.mem_singleton_self _)

private theorem Sites.sensor {asks replies : List Visit} {nodes : List Node} {index : Nat}
    {node : Node}
    (sites : query.Sites start asks replies nodes) (posed : query.Posed start)
    (found : nodes[index]? = some node) (here : index = query.asked)
    (unknown : ¬ node.Knows query.request.fingerprint) :
    node.address = query.sensor.address ∧ node.duty = .sensor query.probe ∧
      node.sequence = query.sensor.sequence := by
  have unasked := sites.asked.unacted found unknown
  have address := ((sites.at_home posed posed.sensing found).mpr here).symm
  rw [here] at unasked found
  exact ⟨address, sites.senses unasked node found⟩

/-- A request for the station at the head is the one that was asked, and the sensor
is as it was. -/
theorem Going.sensor {past : List Occurrence} {traffic : Traffic} {flight : Flight}
    {rest : List Flight} {asks replies : List Visit} {node : Node}
    (going : query.Going start past traffic (flight :: rest) asks replies)
    (posed : query.Posed start) (found : traffic.mesh.nodes[flight.station]? = some node)
    (own : flight.packet.dest = node.address) (asks : flight.packet.kind = .request)
    (unknown : ¬ node.Knows flight.packet.fingerprint) :
    flight.station = query.asked ∧ node.address = query.sensor.address ∧
      node.duty = .sensor query.probe ∧ node.sequence = query.sensor.sequence := by
  obtain ⟨hops, isCopy | isReply⟩ := going.copies flight List.mem_cons_self
  · rw [isCopy] at own unknown
    have here := (going.sites.at_home posed posed.sensing found).mp (posed.dest.symm.trans own)
    exact ⟨here, going.sites.sensor posed found here unknown⟩
  · rw [isReply] at asks
    exact absurd asks (query.reply_kind hops)

/-- Whatever the station at the head takes, the poll goes on. -/
theorem Going.hears {past more : List Occurrence} {traffic later : Traffic} {flight : Flight}
    {rest : List Flight} {asks replies : List Visit} {now : Nat} {order : List Nat}
    (going : query.Going start past traffic (flight :: rest) asks replies)
    (posed : query.Posed start) (accounts : Accounts start.mesh.medium past traffic)
    (stepped : traffic.step? (.hears { index := flight.station, verdict := none, now }) =
      some (more, later))
    (ties : order.Perm (more.flatMap (Occurrence.arrivals start.mesh.medium))) :
    ∃ flights asks replies, rest.map Flight.station ++ order = flights.map Flight.station ∧
      query.Going start (past ++ more) later flights asks replies := by
  obtain ⟨node, medium, outcome, effects, after, found, attached, processed, rfl, moved, rfl⟩ :=
    going.aloft.hears accounts.unlimited stepped
  have within : flight.station < start.mesh.medium.stations.length := by
    rwa [← accounts.length]
  obtain ⟨hops, copied⟩ := going.copies flight List.mem_cons_self
  have roomy := going.sites.roomy node (List.mem_of_getElem? found)
  -- The only packet that a node makes up is the reply, so no other mark can be learnt.
  obtain ⟨sent, learnt, meets⟩ :=
    Node.meets processed roomy going.mark_mem fun own asks unknown => by
      obtain ⟨_, address, _, sequence⟩ := going.sensor posed found own asks unknown
      rw [address, sequence]
      exact List.mem_cons_of_mem _ (List.mem_singleton_self _)
  rw [arrivals_heard, meets.sent] at ties
  rw [meets.sent] at moved
  obtain ⟨hearers, reaches⟩ := posed.neighbours within ties
  have stations := station_launch ties
  rw [← accounts.hearers] at ties
  have hearing : query.Hearing start past traffic flight rest asks replies node after outcome
      effects sent learnt medium order :=
    ⟨posed, going, found, meets, going.aloft.takes moved ties, hearers, reaches⟩
  refine ⟨rest ++ launch sent order, ?_⟩
  rw [List.map_append, stations]
  have fate := meets.fate
  clear meets moved ties stations
  generalize handledEq : outcome.isDispatch = handled at fate
  generalize queuedEq : entriesOf effects = queued at fate
  -- One case for each fate; only the copies' own stations answer, queue or note them.
  cases fate with
  | dropped idle => exact ⟨asks, replies, rfl, hearing.dropped handledEq queuedEq idle⟩
  | relayed alive new foreign =>
      refine ⟨_, _, rfl, hearing.relayed handledEq queuedEq alive new ?_ ?_⟩
      · intro mark here
        rcases copied with isCopy | isReply
        · rw [isCopy] at foreign
          have own := (going.sites.at_home posed posed.sensing found).mpr here
          exact foreign (posed.dest.trans own)
        · rw [isReply] at mark
          exact posed.unlike mark.symm
      · intro mark here
        rcases copied with isCopy | isReply
        · rw [isCopy] at mark
          exact posed.unlike mark
        · rw [isReply] at foreign
          exact foreign ((going.sites.at_home posed posed.asking found).mpr here)
  | @answered probe alive new own duty requests =>
      obtain ⟨here, address, sensing, sequence⟩ := going.sensor posed found own requests new
      have isCopy : flight.packet = query.copy hops := by
        refine copied.resolve_right fun isReply => ?_
        rw [isReply] at requests
        exact query.reply_kind hops requests
      have probeEq : probe = query.probe := Duty.sensor.inj (duty.symm.trans sensing)
      have replyEq : node.reply flight.packet probe.read.1 = query.reply hops := by
        unfold Node.reply Query.reply
        rw [isCopy, probeEq, address, sequence]
        rfl
      rw [replyEq] at hearing ⊢
      exact ⟨_, _, rfl, hearing.answered handledEq queuedEq alive new isCopy here⟩
  | @queued data entry alive new own duty content dest src dataEq =>
      rcases copied with isCopy | isReply
      · rw [isCopy] at content
        cases content
      · rw [isReply] at own content dest src
        have here := (going.sites.at_home posed posed.asking found).mp own
        refine ⟨_, _, rfl, hearing.taken ?_ ?_ alive new isReply here⟩
        · intro fault answer
          have failing : (query.reply hops).content = .fault fault.code :=
            congrArg ProbeAnswer.content answer
          rw [failing] at content
          cases content
        · intro value answer
          have reading : (query.reply hops).content = .reading value :=
            congrArg ProbeAnswer.content answer
          rw [reading] at content
          cases content
          exact ⟨entry, queuedEq, dest, src, dataEq⟩
  | noted alive new own unqueued unanswered =>
      rcases copied with isCopy | isReply
      · have requests : flight.packet.kind = .request := by
          rw [isCopy]
          rfl
        obtain ⟨_, _, sensing, _⟩ := going.sensor posed found own requests new
        have noController : node.duty ≠ .controller := by
          rw [sensing]
          exact fun same => by cases same
        exact absurd requests (unanswered noController)
      · rw [isReply] at own
        have here := (going.sites.at_home posed posed.asking found).mp own
        have controls : node.duty = .controller := by
          rw [here] at found
          exact going.sites.controls node found
        have unread := unqueued controls
        rw [isReply] at unread
        refine ⟨_, _, rfl, hearing.taken (fun _ _ => queuedEq) ?_ alive new isReply here⟩
        intro value answer
        have reading : (query.reply hops).content = .reading value :=
          congrArg ProbeAnswer.content answer
        have isReading : (query.reply hops).kind = .reading := congrArg Content.kind reading
        exact absurd isReading unread

/-! ### The sender's turns -/

structure Finishing (sender : Sender) (node after : Node) (frames : List Bytes)
    (next : Option Sending) (mark : Fingerprint) : Prop where
  silent : frames = []
  address : after.address = node.address
  duty : after.duty = node.duty
  ring : after.ring = node.ring
  keeps : node.announced ⊆ after.announced
  announced : ∀ fingerprint ∈ after.announced, fingerprint ∈ node.announced ∨ fingerprint = mark
  pending : ∀ sending, next = some sending →
    ({ sender with sending } : Sender).pending? = some mark

private theorem finishing {sender : Sender} {node after : Node} {frames : List Bytes}
    {next : Option Sending} {mark : Fingerprint}
    (turn : Turned sender.errand node sender.sending frames after next)
    (pending : sender.pending? = some mark) : Finishing sender node after frames next mark := by
  obtain ⟨station, errand, sending⟩ := sender
  simp only at turn
  cases turn with
  | composed | refused | aired => cases pending
  | numbered request =>
      refine ⟨rfl, rfl, rfl, rfl, List.Subset.refl _, fun _ member => .inl member, ?_⟩
      intro sending same
      cases same
      exact pending
  | announced request told =>
      refine ⟨rfl, rfl, rfl, rfl, List.subset_append_left _ _, ?_,
        fun _ impossible => by cases impossible⟩
      intro fingerprint member
      rcases List.mem_append.mp member with old | last
      · exact .inl old
      · rw [List.mem_singleton.mp last]
        exact .inr (Option.some.inj pending)
  | unannounced request silent =>
      exact ⟨rfl, rfl, rfl, rfl, List.Subset.refl _, fun _ member => .inl member,
        fun _ impossible => by cases impossible⟩

/-- A turn of the sender changes nothing that the floods depend on. -/
theorem Going.turned {past : List Occurrence} {traffic : Traffic} {flights : List Flight}
    {asks replies : List Visit} {which : Nat} {sender : Sender} {node after : Node}
    {frames : List Bytes} {next : Option Sending} {medium : Medium}
    (going : query.Going start past traffic flights asks replies)
    (posed : query.Posed start)
    (present : traffic.senders[which]? = some sender)
    (found : traffic.mesh.nodes[sender.station]? = some node)
    (turn : Turned sender.errand node sender.sending frames after next)
    (aloft : frames = [] → Aloft medium flights) :
    frames = [] ∧
      query.Going start past
        (traffic.worked medium sender.station after (advanced traffic.senders which sender next))
        flights asks replies := by
  obtain ⟨station, pending⟩ := going.senders sender (List.mem_of_getElem? present)
  have finish := finishing turn pending
  have keeps : ∀ mark, node.Knows mark → after.Knows mark := by
    intro mark
    unfold Node.Knows
    rw [finish.ring]
    exact Or.imp id fun announced => finish.keeps announced
  -- The poller announces its own request, which the asker counts as known from the start.
  have learns : ∀ mark, after.Knows mark →
      node.Knows mark ∨ mark = query.request.fingerprint := by
    intro mark knows
    unfold Node.Knows at knows ⊢
    rw [finish.ring] at knows
    rcases knows with inRing | announced
    · exact .inl (.inl inRing)
    · exact (finish.announced mark announced).imp .inr id
  have roomy := going.sites.roomy node (List.mem_of_getElem? found)
  have afterRoomy : after.Roomy query.marks := by
    refine ⟨by rw [finish.ring]; exact roomy.fits, ?_⟩
    intro mark announced
    rcases finish.announced mark announced with old | new
    · exact roomy.announced old
    · rw [new]
      exact List.mem_cons_self
  have asked : Known query.request.fingerprint query.asker (asks ++ []) _ :=
    going.sites.asked.work found (keeps _)
      (fun knows => (learns _ knows).imp id fun _ => .inl station)
      fun act impossible => by cases impossible
  have answered : Known query.replyMark query.asked (replies ++ []) _ :=
    going.sites.answered.work found (keeps _)
      (fun knows => (learns _ knows).imp id fun same => absurd same.symm posed.unlike)
      fun act impossible => by cases impossible
  have sites := going.sites.work found finish.address afterRoomy
    (fun controls => finish.duty.trans controls)
    (fun here => absurd (station.symm.trans here) posed.apart) asked answered
  rw [List.append_nil, List.append_nil] at sites
  refine ⟨finish.silent, aloft finish.silent, going.copies, sites, going.recorded, going.asking,
    going.answering, ?_⟩
  intro other member
  rcases mem_advanced member with old | ⟨sending, goes, new⟩
  · exact going.senders other old
  · rw [new]
    exact ⟨station, finish.pending sending goes⟩

structure Idle (query : Query) (start : Traffic) (traffic : Traffic) : Prop where
  aloft : Aloft traffic.mesh.medium []
  nodes : traffic.mesh.nodes = start.mesh.nodes
  senders : ∃ sending,
    traffic.senders = [{ station := query.asker, errand := query.errand, sending }] ∧
      (sending = .starting ∨ sending = .composed query.request)

inductive Stage (query : Query) (start : Traffic) :
    List Nat → List Occurrence → Traffic → Prop
  | idle {traffic : Traffic} (idle : query.Idle start traffic) : Stage query start [] [] traffic
  | going {past : List Occurrence} {traffic : Traffic} {flights : List Flight}
      {asks replies : List Visit}
      (going : query.Going start past traffic flights asks replies) :
      Stage query start (flights.map Flight.station) past traffic

private theorem Posed.sites (posed : query.Posed start) :
    query.Sites start [] [] start.mesh.nodes := by
  have knows (mark : Fingerprint) (origin : Nat) : Known mark origin [] start.mesh.nodes := by
    refine ⟨fun act impossible => (by cases impossible), fun index node found knows => ?_⟩
    obtain ⟨noEntries, noneAnnounced, _⟩ := posed.forgetful node (List.mem_of_getElem? found)
    unfold Node.Knows at knows
    rw [noEntries, noneAnnounced] at knows
    simp at knows
  refine ⟨rfl, ?_, ?_, ?_, knows _ _, knows _ _⟩
  · intro node member
    obtain ⟨noEntries, noneAnnounced, capacity⟩ := posed.forgetful node member
    refine ⟨⟨?_, ?_, capacity⟩, ?_⟩
    · rw [noEntries]
      exact List.nodup_nil
    · rw [noEntries]
      exact fun item impossible => by cases impossible
    · rw [noneAnnounced]
      exact List.nil_subset _
  · intro node found
    rw [posed.asking] at found
    cases found
    exact posed.controls
  · intro _ node found
    rw [posed.sensing] at found
    cases found
    exact ⟨posed.duty, rfl⟩

/-- The request has just gone out. -/
theorem Posed.going (posed : query.Posed start) {traffic : Traffic} {order : List Nat}
    (aloft : Aloft traffic.mesh.medium (launch (some query.request) order))
    (nodes : traffic.mesh.nodes = start.mesh.nodes)
    (hearers : ∀ station,
      station ∈ order ↔ start.mesh.medium.graph.Adj query.asker station)
    (senders : ∀ sender ∈ traffic.senders,
      sender.station = query.asker ∧ sender.pending? = some query.request.fingerprint) :
    query.Going start [.requested query.asker query.request.frame] traffic
      (launch (some query.request) order) [] [] := by
  refine ⟨aloft, ?_, ?_, ?_, Spread.of_launched rfl rfl hearers, ?_, senders⟩
  · intro flight member
    obtain ⟨station, _, flightEq⟩ := List.mem_map.mp member
    rw [← flightEq]
    exact ⟨query.errand.hops, .inl rfl⟩
  · rw [nodes]
    exact posed.sites
  · refine ⟨⟨?_, ?_⟩, fun _ => rfl, fun _ _ => rfl, ?_⟩
    · rintro ⟨frame, event, hops, member, _⟩
      simp at member
    · rintro ⟨act, impossible, _⟩
      cases impossible
    · rintro data answer ⟨act, impossible, _⟩
      cases impossible
  · refine .unasked (visits_launch_of_ne ?_ order) rfl fun act impossible => by cases impossible
    intro packet same
    rw [← Option.some.inj same]
    exact posed.unlike

private theorem Idle.sends {traffic later : Traffic} {which : Nat} {more : List Occurrence}
    {order : List Nat} (idle : query.Idle start traffic) (posed : query.Posed start)
    (accounts : Accounts start.mesh.medium [] traffic)
    (stepped : traffic.step? (.proceeds which none) = some (more, later))
    (ties : order.Perm (more.flatMap (Occurrence.arrivals start.mesh.medium))) :
    query.Stage start order more later := by
  obtain ⟨sending, sendersEq, sendingEq⟩ := idle.senders
  have within : query.asker < start.mesh.medium.stations.length := by
    rw [← posed.staffed]
    exact (List.getElem?_eq_some_iff.mp posed.asking).1
  have unchanged : start.mesh.nodes.set query.asker query.controller = start.mesh.nodes := by
    obtain ⟨inside, here⟩ := List.getElem?_eq_some_iff.mp posed.asking
    rw [← here]
    exact List.set_getElem_self inside
  cases advance_of_step accounts.unlimited stepped with
  | @turned _ _ sender node after frames next medium present found turn possible moved =>
      obtain ⟨rfl, rfl⟩ : which = 0 ∧
          sender = { station := query.asker, errand := query.errand, sending } := by
        rw [sendersEq] at present
        cases which with
        | zero => exact ⟨rfl, (Option.some.inj present).symm⟩
        | succ _ => cases present
      have foundHere : traffic.mesh.nodes[query.asker]? = some query.controller := by
        rw [idle.nodes]
        exact posed.asking
      rw [show traffic.mesh.nodes[query.asker]? = some node from found] at foundHere
      cases foundHere
      have nodesEq : traffic.mesh.nodes.set query.asker query.controller =
          start.mesh.nodes := by
        rw [idle.nodes]
        exact unchanged
      rcases sendingEq with rfl | rfl
      · cases turn with
        | composed =>
            have silent : order = [] := ties.eq_nil
            have aloft : Aloft medium ([] ++ launch none []) := idle.aloft.sends moved (.refl _)
            rw [silent]
            refine .idle ⟨aloft, nodesEq, ⟨_, ?_, .inr rfl⟩⟩
            rw [sendersEq]
            rfl
      · cases turn with
        | refused =>
            have airs := airs_of_composed present found rfl (by rwa [accounts.length]) stepped
            cases airs
        | aired =>
            rw [arrivals_requested] at ties
            have sets : [query.request.frame] = framesOf (some query.request) := rfl
            rw [sets] at ties moved
            obtain ⟨hearers, reaches⟩ := posed.neighbours within ties
            have stations := station_launch ties
            rw [← accounts.hearers] at ties
            have aloft := idle.aloft.sends moved ties
            rw [← stations]
            refine .going (posed.going aloft nodesEq ?_ ?_)
            · exact fun station =>
                ⟨hearers station, reaches (Option.some_ne_none _) station⟩
            · intro sender member
              rw [sendersEq] at member
              rw [List.mem_singleton.mp member]
              exact ⟨rfl, rfl⟩

private theorem Posed.stage (posed : query.Posed start) {queue : List Nat} {past : List Occurrence}
    {later : Traffic} (punctual : Punctual start queue past later) :
    query.Stage start queue past later := by
  induction punctual with
  | start =>
      refine .idle ⟨fun index _ => posed.quiet.waiting index, rfl, ⟨_, posed.senders, .inl rfl⟩⟩
  | @sends queue order past more traffic later which punctual stepped ties ih =>
      have accounts := punctual.run.accounts posed.quiet
      cases ih with
      | idle idle =>
          exact idle.sends posed accounts stepped ties
      | going going =>
          cases advance_of_step accounts.unlimited stepped with
          | @turned _ _ sender node after frames next medium present found turn _ moved =>
              obtain ⟨silent, onward⟩ := going.turned posed present found turn fun silent => by
                rw [silent] at moved
                have aloft : Aloft medium (_ ++ launch none []) :=
                  going.aloft.sends moved (.refl _)
                rwa [launch, List.append_nil] at aloft
              subst silent
              have noArrival : order = [] := ties.eq_nil
              rw [noArrival, List.append_nil, List.map_nil, List.append_nil]
              exact .going onward
  | @hears index now queue order past more traffic later punctual stepped ties ih =>
      have accounts := punctual.run.accounts posed.quiet
      generalize queueEq : index :: queue = whole at ih
      cases ih with
      | idle idle => cases queueEq
      | @going _ _ flights asks replies going =>
          cases flights with
          | nil => cases queueEq
          | cons flight rest =>
              obtain ⟨rfl, rfl⟩ := List.cons.inj queueEq
              obtain ⟨flights, asks, replies, stations, onward⟩ :=
                going.hears posed accounts stepped ties
              rw [stations]
              exact .going onward

/-! ### Exact reach -/

private theorem Going.near {past : List Occurrence} {traffic : Traffic} {flights : List Flight}
    {asks replies : List Visit}
    (going : query.Going start past traffic flights asks replies)
    (dispatched : Dispatched past query.asked query.request) :
    start.mesh.medium.graph.edist query.asker query.asked ≤ query.errand.hops.toNat := by
  obtain ⟨act, member, here⟩ := going.recorded.dispatched.mp dispatched
  rw [← here]
  exact going.asking.within_budget member

private theorem twice_le {graph : SimpleGraph Nat} {first second budget hops : Nat}
    (there : graph.edist first second ≤ (budget + 1 - hops : Nat))
    (within : hops ≤ budget) (back : graph.edist second first ≤ hops) :
    2 * graph.edist first second ≤ budget + 1 := by
  rw [SimpleGraph.edist_comm] at back
  calc 2 * graph.edist first second
      = graph.edist first second + graph.edist first second := two_mul _
    _ ≤ (budget + 1 - hops : Nat) + hops := add_le_add there back
    _ = budget + 1 := by exact_mod_cast (by omega : budget + 1 - hops + hops = budget + 1)

/-- Nothing is queued but one reading, at the controller, and only if the budget
allows for both ways. -/
theorem Going.only_reading {past : List Occurrence} {traffic : Traffic} {flights : List Flight}
    {asks replies : List Visit}
    (going : query.Going start past traffic flights asks replies) :
    readings past = [] ∨
      ∃ entry, readings past = [(query.asker, entry)] ∧
        entry.dest = query.controller.address ∧ entry.src = query.sensor.address ∧
          query.answer = .ok entry.data ∧
            2 * start.mesh.medium.graph.edist query.asker query.asked ≤
              query.errand.hops.toNat + 1 := by
  by_cases taken : ∃ act ∈ replies, act.station = query.asker
  · cases answer : query.answer with
    | error fault => exact .inl (going.recorded.failed fault answer)
    | ok data =>
        obtain ⟨entry, single, dest, src, dataEq⟩ := going.recorded.queued data answer taken
        refine .inr ⟨entry, single, dest, src, by rw [dataEq], ?_⟩
        obtain ⟨reply, replyMember, there⟩ := taken
        cases going.answering with
        | unasked _ unanswered _ =>
            rw [unanswered] at replyMember
            cases replyMember
        | asked member here spread =>
            obtain ⟨within, near⟩ := going.asking.nearActed _ member
            have back := spread.within_budget replyMember
            rw [here] at near
            rw [there] at back
            exact twice_le near within back
  · left
    apply going.recorded.unanswered
    exact fun act member here => taken ⟨act, member, here⟩

private theorem Going.dispatched_iff {past : List Occurrence} {traffic : Traffic}
    {asks replies : List Visit} (going : query.Going start past traffic [] asks replies)
    (posed : query.Posed start) :
    Dispatched past query.asked query.request ↔
      start.mesh.medium.graph.edist query.asker query.asked ≤ query.errand.hops.toNat :=
  going.recorded.dispatched.trans (going.asking.target_iff posed.apart)

private theorem Going.reading_queued {past : List Occurrence} {traffic : Traffic}
    {asks replies : List Visit} (going : query.Going start past traffic [] asks replies)
    (posed : query.Posed start) {data : Reading} (answer : query.answer = .ok data)
    (near : 2 * start.mesh.medium.graph.edist query.asker query.asked ≤
      query.errand.hops.toNat + 1) : readings past ≠ [] := by
  have hops : query.errand.hops.toNat ≠ 0 := fun none => posed.hops (UInt8.toNat_inj.mp none)
  have single : start.mesh.medium.graph.edist query.asker query.asked ≤
      (query.errand.hops.toNat + 1 : Nat) := by
    refine le_self_add.trans (le_of_eq_of_le (two_mul _).symm ?_)
    exact_mod_cast near
  obtain ⟨distance, distanceEq, _⟩ := ENat.le_natCast_iff.mp single
  rw [distanceEq] at near
  have bounded : 2 * distance ≤ query.errand.hops.toNat + 1 := by exact_mod_cast near
  have reached : start.mesh.medium.graph.edist query.asker query.asked ≤
      query.errand.hops.toNat := by
    rw [distanceEq]
    exact_mod_cast (by omega : distance ≤ query.errand.hops.toNat)
  obtain ⟨ask, askMember, there⟩ := (going.asking.target_iff posed.apart).mpr reached
  cases going.answering with
  | unasked _ _ unasked => exact absurd there (unasked ask askMember)
  | @asked act member here spread =>
      -- The sensor acted with the hops that its distance leaves, and they carry the reply back.
      have left := going.asking.hops_of_target posed.apart member here
      have few := (going.asking.nearActed act member).1
      rw [distanceEq] at left
      have distanceLeft : distance = query.errand.hops.toNat + 1 - act.hops := by
        exact_mod_cast left
      have back : start.mesh.medium.graph.edist query.asked query.asker ≤ act.hops := by
        rw [SimpleGraph.edist_comm, distanceEq]
        exact_mod_cast (by omega : distance ≤ act.hops)
      obtain ⟨entry, single, _⟩ := going.recorded.queued data answer
        ((spread.target_iff posed.apart.symm).mpr back)
      rw [single]
      exact List.cons_ne_nil _ _

/-- If frames are taken in the order of the air, one poll comes to its end, the
sensor dispatches the request if and only if its distance is within the hops, and
if its read succeeds, the reading is queued at the controller, once, if and only if
twice the distance is within the hops and one. Nothing else is ever queued. -/
theorem exact_reach (posed : query.Posed start) {queue : List Nat} {past : List Occurrence}
    {later : Traffic} (punctual : Punctual start queue past later) :
    (∃ more final, Punctual start [] (past ++ more) final ∧ final.senders = []) ∧
      (Dispatched past query.asked query.request →
        start.mesh.medium.graph.edist query.asker query.asked ≤ query.errand.hops.toNat) ∧
      (readings past = [] ∨
        ∃ entry, readings past = [(query.asker, entry)] ∧
          entry.dest = query.controller.address ∧ entry.src = query.sensor.address ∧
            query.answer = .ok entry.data ∧
              2 * start.mesh.medium.graph.edist query.asker query.asked ≤
                query.errand.hops.toNat + 1) ∧
      (queue = [] → later.senders = [] →
        (Dispatched past query.asked query.request ↔
          start.mesh.medium.graph.edist query.asker query.asked ≤
            query.errand.hops.toNat) ∧
        ∀ data, query.answer = .ok data →
          (readings past ≠ [] ↔
            2 * start.mesh.medium.graph.edist query.asker query.asked ≤
              query.errand.hops.toNat + 1)) := by
  have staffed : start.Staffed := by
    refine ⟨posed.staffed, fun sender member => ?_⟩
    rw [posed.senders] at member
    rw [List.mem_singleton.mp member]
    exact (List.getElem?_eq_some_iff.mp posed.asking).1
  refine ⟨punctual.settles posed.quiet staffed, ?_⟩
  cases posed.stage punctual with
  | idle idle =>
      refine ⟨?_, .inl rfl, ?_⟩
      · rintro ⟨frame, event, hops, impossible, _⟩
        cases impossible
      · intro _ done
        obtain ⟨sending, sendersEq, _⟩ := idle.senders
        rw [done] at sendersEq
        cases sendersEq
  | @going _ _ flights asks replies going =>
      refine ⟨going.near, going.only_reading, ?_⟩
      intro empty _
      rw [List.map_eq_nil_iff] at empty
      subst empty
      refine ⟨going.dispatched_iff posed, fun data answer => ?_⟩
      refine ⟨?_, going.reading_queued posed answer⟩
      intro queued
      rcases going.only_reading with none | ⟨_, _, _, _, _, near⟩
      · exact absurd none queued
      · exact near

/-! ### One poll over a relay -/

def chainNode (digit : Nat) (duty : Duty) : Node :=
  { address := .numbered digit, duty, ring := Ring.empty 2, queue := Queue.new 1 }

def overRelay : Query where
  asker := 0
  asked := 2
  controller := chainNode 0 .controller
  sensor := chainNode 2 (.sensor (.ofList []))
  probe := .ofList []
  errand := { dest := .numbered 2, meshSize := 3, hops := 3 }

def relayChain : Traffic :=
  { mesh :=
      { medium := (Medium.ofCount 3).chain [0, 1, 2]
        nodes :=
          [overRelay.controller, chainNode 1 (.sensor (.ofList [])), overRelay.sensor] }
    senders := [{ station := 0, errand := overRelay.errand }] }

private theorem posed_relayChain : overRelay.Posed relayChain where
  quiet := Traffic.quiet_of_stations (by decide)
  staffed := by decide
  symmetric := (Medium.symmetric_ofCount 3).chain _
  addresses := by decide
  forgetful := by decide
  senders := rfl
  asking := rfl
  controls := rfl
  sensing := rfl
  duty := rfl
  dest := rfl
  hops := by decide
  unlike := by decide +kernel

private theorem edist_relayChain : relayChain.mesh.medium.graph.edist 0 2 ≤ 2 := by
  have adjacent {first second : Nat}
      (linked : first ≠ second ∧ first < 3 ∧ second < 3 ∧
        relayChain.mesh.medium.linked first second = true) :
      relayChain.mesh.medium.graph.edist first second ≤ 1 := by
    refine (SimpleGraph.edist_eq_one_iff_adj.mpr ?_).le
    unfold Medium.graph
    rw [SimpleGraph.fromRel_adj]
    exact ⟨linked.1, .inl linked.2⟩
  calc relayChain.mesh.medium.graph.edist 0 2
      ≤ relayChain.mesh.medium.graph.edist 0 1 + relayChain.mesh.medium.graph.edist 1 2 :=
        SimpleGraph.edist_triangle
    _ ≤ 1 + 1 := add_le_add (adjacent (by decide)) (adjacent (by decide))
    _ = 2 := by norm_num

/-- Three hops are enough for both ways over one relay. -/
theorem exact_reach_relayChain :
    ∃ past final, Punctual relayChain [] past final ∧ final.senders = [] ∧
      Dispatched past 2 overRelay.request ∧
      ∃ entry, readings past = [(0, entry)] ∧ entry.src = .numbered 2 := by
  have begins := exact_reach posed_relayChain .start
  obtain ⟨past, final, punctual, done⟩ := begins.1
  rw [List.nil_append] at punctual
  obtain ⟨_, _, queued, ended⟩ := exact_reach posed_relayChain punctual
  obtain ⟨dispatched, read⟩ := ended rfl done
  have near : relayChain.mesh.medium.graph.edist 0 2 ≤ 3 :=
    edist_relayChain.trans (by norm_num)
  have both : 2 * relayChain.mesh.medium.graph.edist 0 2 ≤ 3 + 1 := by
    calc 2 * relayChain.mesh.medium.graph.edist 0 2 ≤ 2 * 2 := mul_le_mul_right edist_relayChain 2
      _ = 3 + 1 := by norm_num
  refine ⟨past, final, punctual, done, dispatched.mpr near, ?_⟩
  rcases queued with none | ⟨entry, single, _, src, _⟩
  · exact absurd none ((read Reading.zero rfl).mpr both)
  · exact ⟨entry, single, src⟩

end Query

end FloodMesh
