/-
One poll on an otherwise silent mesh.

One controller asks one sensor. What is kept of such a run are the copies of the
request and of the reply that are on their way and those that were acted on. The
nodes know the fingerprints of what they acted on and no others, and on record
is what the sensor and the controller acted on.
-/

import FloodMesh.Proofs.Fate
import FloodMesh.Proofs.Spread

namespace FloodMesh

open Traffic

/-! ### One poll and nothing else -/

structure Query where
  asker : Nat
  asked : Nat
  controller : Node
  sensor : Node
  probe : Probe
  errand : Errand

namespace Query

def request (query : Query) : Packet := Sending.compose query.errand query.controller

def copy (query : Query) (hops : UInt8) : Packet := { query.request with hops }

def answer (query : Query) : ProbeAnswer := query.probe.read.1

def reply (query : Query) (hops : UInt8) : Packet :=
  query.sensor.reply (query.copy hops) query.answer

def replyMark (query : Query) : Fingerprint :=
  Fingerprint.generate query.sensor.address query.sensor.sequence

def marks (query : Query) : List Fingerprint := [query.request.fingerprint, query.replyMark]

structure Posed (query : Query) (start : Traffic) : Prop where
  quiet : start.Quiet
  staffed : start.mesh.nodes.length = start.mesh.medium.stations.length
  symmetric : start.mesh.medium.Symmetric
  addresses : (start.mesh.nodes.map Node.address).Nodup
  forgetful : ∀ node ∈ start.mesh.nodes,
    node.ring.entries = [] ∧ node.announced = [] ∧ 2 ≤ node.ring.capacity
  senders : start.senders = [{ station := query.asker, errand := query.errand }]
  asking : start.mesh.nodes[query.asker]? = some query.controller
  controls : query.controller.duty = .controller
  sensing : start.mesh.nodes[query.asked]? = some query.sensor
  duty : query.sensor.duty = .sensor query.probe
  dest : query.errand.dest = query.sensor.address
  hops : query.errand.hops ≠ 0
  /-- The digests behind the two fingerprints do not collide. -/
  unlike : query.request.fingerprint ≠ query.replyMark

end Query

def Dispatched (past : List Occurrence) (station : Nat) (packet : Packet) : Prop :=
  ∃ frame event hops, .heard frame event ∈ past ∧ event.index = station ∧
    event.outcome.isDispatch = true ∧ Packet.decode frame = .ok { packet with hops }

/-- The readings that were queued, each with the station that queued it. -/
def Traffic.Occurrence.readings : Occurrence → List (Nat × Entry)
  | .requested _ _ => []
  | .heard _ event => (entriesOf event.effects).map fun entry => (event.index, entry)

def readings (past : List Occurrence) : List (Nat × Entry) := past.flatMap Occurrence.readings

/-! ### Flights as visits -/

def Flight.visit (flight : Flight) : Visit :=
  { station := flight.station, hops := flight.packet.hops.toNat }

def visits (mark : Fingerprint) (flights : List Flight) : List Visit :=
  (flights.filter fun flight => flight.packet.fingerprint = mark).map Flight.visit

theorem visits_append (mark : Fingerprint) (first second : List Flight) :
    visits mark (first ++ second) = visits mark first ++ visits mark second := by
  unfold visits
  rw [List.filter_append, List.map_append]

theorem visits_cons_of_eq {mark : Fingerprint} {flight : Flight}
    (same : flight.packet.fingerprint = mark) (rest : List Flight) :
    visits mark (flight :: rest) = flight.visit :: visits mark rest := by
  unfold visits
  rw [List.filter_cons_of_pos (by simpa using same)]
  rfl

theorem visits_cons_of_ne {mark : Fingerprint} {flight : Flight}
    (different : flight.packet.fingerprint ≠ mark) (rest : List Flight) :
    visits mark (flight :: rest) = visits mark rest := by
  unfold visits
  rw [List.filter_cons_of_neg (by simpa using different)]

theorem nil_of_visits_cons {mark : Fingerprint} {flight : Flight} {rest : List Flight}
    (nothing : visits mark (flight :: rest) = []) :
    flight.packet.fingerprint ≠ mark ∧ visits mark rest = [] := by
  by_cases same : flight.packet.fingerprint = mark
  · rw [visits_cons_of_eq same] at nothing
    cases nothing
  · rw [visits_cons_of_ne same] at nothing
    exact ⟨same, nothing⟩

private theorem visits_launch_of_eq {packet : Packet} {mark : Fingerprint}
    (same : packet.fingerprint = mark) (order : List Nat) :
    visits mark (launch (some packet) order) =
      order.map fun station => { station, hops := packet.hops.toNat } := by
  unfold visits launch
  rw [List.filter_eq_self.mpr, List.map_map]
  · rfl
  · intro flight member
    obtain ⟨station, _, flightEq⟩ := List.mem_map.mp member
    rw [← flightEq]
    simpa using same

theorem visits_launch_of_ne {sent : Option Packet} {mark : Fingerprint}
    (different : ∀ packet, sent = some packet → packet.fingerprint ≠ mark) (order : List Nat) :
    visits mark (launch sent order) = [] := by
  cases sent with
  | none => rfl
  | some packet =>
      unfold visits launch
      rw [List.filter_eq_nil_iff.mpr, List.map_nil]
      intro flight member
      obtain ⟨station, _, flightEq⟩ := List.mem_map.mp member
      rw [← flightEq]
      simpa using different packet rfl

section Flights

variable {graph : SimpleGraph Nat} {origin target budget : Nat} {mark : Fingerprint}
  {flight : Flight} {rest : List Flight} {acted : List Visit}

theorem Spread.of_dropped
    (spread : Spread graph origin target budget (visits mark (flight :: rest)) acted)
    (idle : flight.packet.fingerprint = mark → flight.packet.hops = 0 ∨
      flight.station = origin ∨ ∃ act ∈ acted, act.station = flight.station) :
    Spread graph origin target budget (visits mark rest) acted := by
  by_cases same : flight.packet.fingerprint = mark
  · rw [visits_cons_of_eq same] at spread
    refine spread.pass ((idle same).imp (fun spent => ?_) id)
    exact UInt8.toNat_inj.mpr spent
  · rw [visits_cons_of_ne same] at spread
    exact spread

/-- Whatever flood the oldest copy belongs to, all floods go on if it is acted on
and its station sends the flood's packet on unless it is the target. -/
theorem Spread.of_acted
    (spread : Spread graph origin target budget (visits mark (flight :: rest)) acted)
    (alive : flight.packet.hops ≠ 0)
    (new : flight.packet.fingerprint = mark → ∀ act ∈ acted, act.station ≠ flight.station)
    {sent : Option Packet} {order : List Nat}
    (hearers : ∀ station, station ∈ order → graph.Adj flight.station station)
    (relays : flight.packet.fingerprint = mark →
      (sent = some flight.packet.passedOn ∧
        ∀ station, graph.Adj flight.station station → station ∈ order) ∨
      (flight.station = target ∧ visits mark (launch sent order) = []))
    (silent : flight.packet.fingerprint ≠ mark → visits mark (launch sent order) = []) :
    Spread graph origin target budget (visits mark (rest ++ launch sent order))
      (acted ++ visits mark [flight]) := by
  rw [visits_append]
  by_cases same : flight.packet.fingerprint = mark
  · rw [visits_cons_of_eq same] at spread ⊢
    have hopsAlive : flight.visit.hops ≠ 0 := fun spent => alive (UInt8.toNat_inj.mp spent)
    rcases relays same with ⟨sentEq, reaches⟩ | ⟨here, nothing⟩
    · have fewer := Flood.toNat_pred alive
      have hopsEq : flight.packet.passedOn.hops.toNat = flight.visit.hops - 1 := by
        change (flight.packet.hops - 1).toNat = flight.packet.hops.toNat - 1
        omega
      rw [sentEq, visits_launch_of_eq (show flight.packet.passedOn.fingerprint = mark from same),
        hopsEq]
      apply spread.act hopsAlive (new same)
      · intro visit member
        obtain ⟨station, listed, visitEq⟩ := List.mem_map.mp member
        rw [← visitEq]
        exact ⟨rfl, hearers station listed⟩
      · intro _ station adjacent
        exact List.mem_map.mpr ⟨station, reaches station adjacent, rfl⟩
    · rw [nothing]
      apply spread.act hopsAlive (new same)
      · intro visit impossible
        cases impossible
      · exact fun passesOn => absurd here passesOn
  · rw [visits_cons_of_ne same] at spread ⊢
    rw [silent same, List.append_nil]
    simpa [visits] using spread

theorem Spread.of_launched {packet : Packet} {order : List Nat}
    (same : packet.fingerprint = mark) (hopsEq : packet.hops.toNat = budget)
    (hearers : ∀ station, station ∈ order ↔ graph.Adj origin station) :
    Spread graph origin target budget (visits mark (launch (some packet) order)) [] := by
  rw [visits_launch_of_eq same, hopsEq]
  apply Spread.start
  · intro visit member
    obtain ⟨station, listed, visitEq⟩ := List.mem_map.mp member
    rw [← visitEq]
    exact ⟨rfl, (hearers station).mp listed⟩
  · intro station adjacent
    exact List.mem_map.mpr ⟨station, (hearers station).mpr adjacent, rfl⟩

end Flights

/-! ### What the nodes know -/

structure Known (mark : Fingerprint) (origin : Nat) (acted : List Visit) (nodes : List Node) :
    Prop where
  fromActs : ∀ act ∈ acted, ∀ node : Node, nodes[act.station]? = some node → node.Knows mark
  only : ∀ index (node : Node), nodes[index]? = some node → node.Knows mark →
    index = origin ∨ ∃ act ∈ acted, act.station = index

/-- A node learns a fingerprint only by acting on the packet or originating it. -/
theorem Known.work {mark : Fingerprint} {origin index : Nat} {acted new : List Visit}
    {nodes : List Node} {node after : Node} (known : Known mark origin acted nodes)
    (found : nodes[index]? = some node) (keeps : node.Knows mark → after.Knows mark)
    (learns : after.Knows mark →
      node.Knows mark ∨ index = origin ∨ ∃ act ∈ new, act.station = index)
    (here : ∀ act ∈ new, act.station = index ∧ after.Knows mark) :
    Known mark origin (acted ++ new) (nodes.set index after) := by
  have within := (List.getElem?_eq_some_iff.mp found).1
  constructor
  · intro act member other otherFound
    by_cases same : index = act.station
    · rw [← same, List.getElem?_set_self within] at otherFound
      cases otherFound
      rcases List.mem_append.mp member with old | last
      · exact keeps (known.fromActs act old node (by rw [← same]; exact found))
      · exact (here act last).2
    · rw [List.getElem?_set_ne same] at otherFound
      rcases List.mem_append.mp member with old | last
      · exact known.fromActs act old other otherFound
      · exact absurd (here act last).1.symm same
  · intro other holder holderFound knows
    have older : ∀ {station}, (∃ act ∈ acted, act.station = station) →
        ∃ act ∈ acted ++ new, act.station = station := fun ⟨act, member, there⟩ =>
      ⟨act, List.mem_append_left _ member, there⟩
    by_cases same : index = other
    · subst same
      rw [List.getElem?_set_self within] at holderFound
      cases holderFound
      rcases learns knows with old | home | ⟨act, member, there⟩
      · exact (known.only index node found old).imp id older
      · exact .inl home
      · exact .inr ⟨act, List.mem_append_right _ member, there⟩
    · rw [List.getElem?_set_ne same] at holderFound
      exact (known.only other holder holderFound knows).imp id older

theorem mem_visits_singleton {mark : Fingerprint} {flight : Flight} {act : Visit} :
    act ∈ visits mark [flight] ↔ act = flight.visit ∧ flight.packet.fingerprint = mark := by
  by_cases same : flight.packet.fingerprint = mark
  · rw [visits_cons_of_eq same]
    simp [visits, same]
  · rw [visits_cons_of_ne same]
    simp [visits, same]

theorem Known.unacted {mark : Fingerprint} {origin index : Nat} {acted : List Visit}
    {nodes : List Node} {node : Node} (known : Known mark origin acted nodes)
    (found : nodes[index]? = some node) (unknown : ¬ node.Knows mark) :
    ∀ act ∈ acted, act.station ≠ index := by
  intro act member here
  rw [← here] at found
  exact unknown (known.fromActs act member node found)

namespace Query

variable {query : Query} {start : Traffic}

/-- The nodes while the poll is under way. `asks` are the copies of the request that
were acted on, and `replies` those of the reply. -/
structure Sites (query : Query) (start : Traffic) (asks replies : List Visit)
    (nodes : List Node) : Prop where
  addresses : nodes.map Node.address = start.mesh.nodes.map Node.address
  roomy : ∀ node ∈ nodes, node.Roomy query.marks
  controls : ∀ node : Node, nodes[query.asker]? = some node → node.duty = .controller
  senses : (∀ act ∈ asks, act.station ≠ query.asked) →
    ∀ node : Node, nodes[query.asked]? = some node →
      node.duty = .sensor query.probe ∧ node.sequence = query.sensor.sequence
  asked : Known query.request.fingerprint query.asker asks nodes
  answered : Known query.replyMark query.asked replies nodes

/-- A node's work keeps the nodes in order if it learns only what it acts on or
originates, and the sensor stays as it is until it has acted on the request. -/
theorem Sites.work {asks replies newAsks newReplies : List Visit} {nodes : List Node}
    (sites : query.Sites start asks replies nodes) {index : Nat} {node after : Node}
    (found : nodes[index]? = some node) (address : after.address = node.address)
    (roomy : after.Roomy query.marks)
    (controls : node.duty = .controller → after.duty = .controller)
    (senses : index = query.asked → (∀ act ∈ newAsks, act.station ≠ query.asked) →
      after.duty = node.duty ∧ after.sequence = node.sequence)
    (asked : Known query.request.fingerprint query.asker (asks ++ newAsks)
      (nodes.set index after))
    (answered : Known query.replyMark query.asked (replies ++ newReplies)
      (nodes.set index after)) :
    query.Sites start (asks ++ newAsks) (replies ++ newReplies) (nodes.set index after) := by
  have within := (List.getElem?_eq_some_iff.mp found).1
  refine ⟨?_, ?_, ?_, ?_, asked, answered⟩
  · exact (address_set found address).trans sites.addresses
  · intro other member
    rcases List.mem_or_eq_of_mem_set member with old | new
    · exact sites.roomy other old
    · rw [new]
      exact roomy
  · intro other otherFound
    by_cases same : index = query.asker
    · subst same
      rw [List.getElem?_set_self within] at otherFound
      cases otherFound
      exact controls (sites.controls node found)
    · rw [List.getElem?_set_ne same] at otherFound
      exact sites.controls other otherFound
  · intro unasked other otherFound
    have before : ∀ act ∈ asks, act.station ≠ query.asked := fun act member =>
      unasked act (List.mem_append_left _ member)
    by_cases same : index = query.asked
    · obtain ⟨dutyEq, sequenceEq⟩ := senses same fun act member =>
        unasked act (List.mem_append_right _ member)
      subst same
      rw [List.getElem?_set_self within] at otherFound
      cases otherFound
      obtain ⟨duty, sequence⟩ := sites.senses before node found
      exact ⟨dutyEq.trans duty, sequenceEq.trans sequence⟩
    · rw [List.getElem?_set_ne same] at otherFound
      exact sites.senses before other otherFound

/-! ### The poll under way -/

/-- The reply's flood. There is none until the sensor has acted on the request, and
then it sets out with the hops that the request had left. -/
inductive Answering (query : Query) (graph : SimpleGraph Nat) (pending asks replies : List Visit) :
    Prop
  | unasked (silent : pending = []) (unanswered : replies = [])
      (unasked : ∀ act ∈ asks, act.station ≠ query.asked) :
      Answering query graph pending asks replies
  | asked {act : Visit} (member : act ∈ asks) (here : act.station = query.asked)
      (spread : Spread graph query.asked query.asker act.hops pending replies) :
      Answering query graph pending asks replies

structure Recorded (query : Query) (asks replies : List Visit) (past : List Occurrence) :
    Prop where
  dispatched : Dispatched past query.asked query.request ↔
    ∃ act ∈ asks, act.station = query.asked
  unanswered : (∀ act ∈ replies, act.station ≠ query.asker) → readings past = []
  failed : ∀ fault, query.answer = .error fault → readings past = []
  queued : ∀ data, query.answer = .ok data →
    (∃ act ∈ replies, act.station = query.asker) →
      ∃ entry, readings past = [(query.asker, entry)] ∧
        entry.dest = query.controller.address ∧ entry.src = query.sensor.address ∧
          entry.data = data

structure Going (query : Query) (start : Traffic) (past : List Occurrence) (traffic : Traffic)
    (flights : List Flight) (asks replies : List Visit) : Prop where
  aloft : Aloft traffic.mesh.medium flights
  copies : ∀ flight ∈ flights, ∃ hops,
    flight.packet = query.copy hops ∨ flight.packet = query.reply hops
  sites : query.Sites start asks replies traffic.mesh.nodes
  recorded : query.Recorded asks replies past
  asking : Spread start.mesh.medium.graph query.asker query.asked query.errand.hops.toNat
    (visits query.request.fingerprint flights) asks
  answering : query.Answering start.mesh.medium.graph (visits query.replyMark flights)
    asks replies
  senders : ∀ sender ∈ traffic.senders,
    sender.station = query.asker ∧ sender.pending? = some query.request.fingerprint

private theorem readings_append (past more : List Occurrence) :
    readings (past ++ more) = readings past ++ readings more :=
  List.flatMap_append

private theorem dispatched_concat {past : List Occurrence} {packet heard : Packet} {station : Nat}
    {event : Mesh.Event} :
    Dispatched (past ++ [.heard heard.frame event]) station packet ↔
      Dispatched past station packet ∨
        (event.index = station ∧ event.outcome.isDispatch = true ∧
          ∃ hops, heard = { packet with hops }) := by
  constructor
  · rintro ⟨frame, other, hops, member, here, handled, reads⟩
    rcases List.mem_append.mp member with old | last
    · exact .inl ⟨frame, other, hops, old, here, handled, reads⟩
    · cases List.mem_singleton.mp last
      rw [Packet.decode_frame] at reads
      exact .inr ⟨here, handled, hops, Except.ok.inj reads⟩
  · rintro (⟨frame, other, hops, member, rest⟩ | ⟨here, handled, hops, same⟩)
    · exact ⟨frame, other, hops, List.mem_append_left _ member, rest⟩
    · refine ⟨heard.frame, event, hops, by simp, here, handled, ?_⟩
      rw [Packet.decode_frame, same]

section Facts

variable {asks replies : List Visit} {nodes : List Node} {index : Nat} {node : Node}

theorem Posed.apart (posed : query.Posed start) : query.asker ≠ query.asked := by
  intro same
  have sensing := posed.sensing
  rw [← same, posed.asking] at sensing
  have duty := posed.duty
  rw [← Option.some.inj sensing, posed.controls] at duty
  cases duty

theorem Sites.at_home (sites : query.Sites start asks replies nodes) (posed : query.Posed start)
    {home : Nat} {first : Node} (place : start.mesh.nodes[home]? = some first)
    (found : nodes[index]? = some node) : first.address = node.address ↔ index = home := by
  obtain ⟨before, beforeFound, same⟩ := getElem?_of_addresses sites.addresses.symm found
  constructor
  · intro own
    exact index_eq_of_address posed.addresses beforeFound place (same.trans own.symm)
  · intro here
    rw [here, place] at beforeFound
    cases beforeFound
    exact same

theorem Posed.adj_iff (posed : query.Posed start)
    (within : index < start.mesh.medium.stations.length) (station : Nat) :
    start.mesh.medium.graph.Adj index station ↔
      station ∈ start.mesh.medium.hearers index := by
  rw [Medium.mem_hearers]
  unfold Medium.graph Medium.reaches
  rw [SimpleGraph.fromRel_adj]
  constructor
  · rintro ⟨different, ⟨_, inside, linked⟩ | ⟨inside, _, linked⟩⟩
    · simpa [inside, linked] using different.symm
    · rw [posed.symmetric] at linked
      simpa [inside, linked] using different.symm
  · rintro ⟨inside, reached⟩
    obtain ⟨different, linked⟩ : station ≠ index ∧
        start.mesh.medium.linked index station = true := by simpa using reached
    exact ⟨different.symm, .inl ⟨within, inside, linked⟩⟩

end Facts

section Records

variable {asks replies newAsks newReplies : List Visit} {past : List Occurrence}
  {packet : Packet} {event : Mesh.Event}

private theorem readings_concat (frame : Bytes) :
    readings (past ++ [.heard frame event]) =
      readings past ++ (entriesOf event.effects).map fun entry => (event.index, entry) := by
  rw [readings_append]
  exact congrArg _ (List.flatMap_singleton ..)

theorem Recorded.elsewhere (recorded : query.Recorded asks replies past)
    (unhandled : event.outcome.isDispatch = false) (unqueued : entriesOf event.effects = [])
    (foreign : ∀ act ∈ newAsks, act.station ≠ query.asked)
    (foreignReply : ∀ act ∈ newReplies, act.station ≠ query.asker) :
    query.Recorded (asks ++ newAsks) (replies ++ newReplies)
      (past ++ [.heard packet.frame event]) := by
  have sameReadings : readings (past ++ [.heard packet.frame event]) = readings past := by
    rw [readings_concat, unqueued, List.map_nil, List.append_nil]
  constructor
  · rw [dispatched_concat, unhandled, recorded.dispatched]
    constructor
    · rintro (⟨act, member, here⟩ | ⟨_, impossible, _⟩)
      · exact ⟨act, List.mem_append_left _ member, here⟩
      · cases impossible
    · rintro ⟨act, member, here⟩
      rcases List.mem_append.mp member with old | new
      · exact .inl ⟨act, old, here⟩
      · exact absurd here (foreign act new)
  · intro unanswered
    rw [sameReadings]
    exact recorded.unanswered fun act member => unanswered act (List.mem_append_left _ member)
  · intro fault answer
    rw [sameReadings]
    exact recorded.failed fault answer
  · rintro data answer ⟨act, member, here⟩
    rw [sameReadings]
    rcases List.mem_append.mp member with old | new
    · exact recorded.queued data answer ⟨act, old, here⟩
    · exact absurd here (foreignReply act new)

theorem Recorded.answered (recorded : query.Recorded asks replies past) {hops : UInt8}
    (handled : event.outcome.isDispatch = true) (unqueued : entriesOf event.effects = [])
    (here : event.index = query.asked) {act : Visit} (acted : act.station = query.asked) :
    query.Recorded (asks ++ [act]) replies
      (past ++ [.heard (query.copy hops).frame event]) := by
  have sameReadings :
      readings (past ++ [.heard (query.copy hops).frame event]) = readings past := by
    rw [readings_concat, unqueued, List.map_nil, List.append_nil]
  constructor
  · rw [dispatched_concat]
    constructor
    · exact fun _ => ⟨act, List.mem_append_right _ (List.mem_singleton_self _), acted⟩
    · exact fun _ => .inr ⟨here, handled, hops, rfl⟩
  · rw [sameReadings]
    exact recorded.unanswered
  · rw [sameReadings]
    exact recorded.failed
  · rw [sameReadings]
    exact recorded.queued

theorem Recorded.taken (recorded : query.Recorded asks replies past)
    (apart : query.asker ≠ query.asked) (here : event.index = query.asker)
    (before : ∀ act ∈ replies, act.station ≠ query.asker)
    (failed : ∀ fault, query.answer = .error fault → entriesOf event.effects = [])
    (queued : ∀ data, query.answer = .ok data →
      ∃ entry, entriesOf event.effects = [entry] ∧ entry.dest = query.controller.address ∧
        entry.src = query.sensor.address ∧ entry.data = data)
    {act : Visit} (acted : act.station = query.asker) :
    query.Recorded asks (replies ++ [act]) (past ++ [.heard packet.frame event]) := by
  have nothing := recorded.unanswered before
  have nowReadings : readings (past ++ [.heard packet.frame event]) =
      (entriesOf event.effects).map fun entry => (query.asker, entry) := by
    rw [readings_concat, nothing, List.nil_append, here]
  constructor
  · rw [dispatched_concat, recorded.dispatched]
    refine or_iff_left ?_
    rintro ⟨there, _⟩
    exact apart (here.symm.trans there)
  · intro unanswered
    exact absurd acted (unanswered act (List.mem_append_right _ (List.mem_singleton_self _)))
  · intro fault answer
    rw [nowReadings, failed fault answer, List.map_nil]
  · intro data answer _
    obtain ⟨entry, single, rest⟩ := queued data answer
    refine ⟨entry, ?_, rest⟩
    rw [nowReadings, single, List.map_singleton]

end Records

end Query

end FloodMesh
