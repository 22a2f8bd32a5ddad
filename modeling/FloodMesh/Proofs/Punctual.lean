/-
Runs in which frames are taken in the order they were put on the air.

A queue is kept beside the run. It holds a station for every frame that has yet
to be taken there, oldest first; the frames of one transmission stand in any
order. Only the station at its head may take a frame. The frames themselves are
those of packets that are on their way, and such a run can always go on until
nothing is on its way any more.
-/

import FloodMesh.Proofs.AtMostOnce
import FloodMesh.Proofs.FloodEnd

namespace FloodMesh

open Traffic

/-! ### The order of the air -/

def Medium.hearers (medium : Medium) (sender : Nat) : List Nat :=
  (List.range medium.stations.length).filter (medium.reaches sender)

def Traffic.Occurrence.arrivals (medium : Medium) : Occurrence → List Nat
  | .requested station _ => medium.hearers station
  | .heard _ event => (sentFrames event.effects).flatMap fun _ => medium.hearers event.index

/-- The runs in which every radio takes what it is given, no request is begun, no
node is tended, and frames are taken in the order of the air. -/
inductive Traffic.Punctual (start : Traffic) : List Nat → List Occurrence → Traffic → Prop
  | start : Punctual start [] [] start
  | sends {queue order : List Nat} {past more : List Occurrence} {traffic later : Traffic}
      {which : Nat} (run : Punctual start queue past traffic)
      (stepped : traffic.step? (.proceeds which none) = some (more, later))
      (ties : order.Perm (more.flatMap (Occurrence.arrivals start.mesh.medium))) :
      Punctual start (queue ++ order) (past ++ more) later
  | hears {index now : Nat} {queue order : List Nat} {past more : List Occurrence}
      {traffic later : Traffic} (run : Punctual start (index :: queue) past traffic)
      (stepped : traffic.step? (.hears { index, verdict := none, now }) = some (more, later))
      (ties : order.Perm (more.flatMap (Occurrence.arrivals start.mesh.medium))) :
      Punctual start (queue ++ order) (past ++ more) later

theorem Traffic.Punctual.run {start later : Traffic} {queue : List Nat}
    {past : List Occurrence} (punctual : Punctual start queue past later) :
    Run (fun _ _ => True) start past later := by
  induction punctual with
  | start => exact .start
  | sends _ stepped _ ih => exact ih.step trivial stepped
  | hears _ stepped _ ih => exact ih.step trivial stepped

theorem Medium.mem_hearers {medium : Medium} {sender index : Nat} :
    index ∈ medium.hearers sender ↔
      index < medium.stations.length ∧ medium.reaches sender index = true := by
  unfold hearers
  rw [List.mem_filter, List.mem_range]

private theorem Medium.nodup_hearers (medium : Medium) (sender : Nat) :
    (medium.hearers sender).Nodup :=
  List.nodup_range.filter _

theorem Accounts.hearers {start : Medium} {past : List Occurrence} {traffic : Traffic}
    (accounts : Accounts start past traffic) : traffic.mesh.medium.hearers = start.hearers := by
  funext sender
  unfold Medium.hearers
  rw [accounts.length]
  congr 1
  funext index
  unfold Medium.reaches
  rw [accounts.linked]

/-! ### Packets on their way -/

structure Flight where
  packet : Packet
  station : Nat

def framesTo (flights : List Flight) (station : Nat) : List Bytes :=
  (flights.filter fun flight => flight.station = station).map fun flight => flight.packet.frame

def Aloft (medium : Medium) (flights : List Flight) : Prop :=
  ∀ index < medium.stations.length, medium.waitingAt index = framesTo flights index

def framesOf (sent : Option Packet) : List Bytes := (sent.map Packet.frame).toList

def launch (sent : Option Packet) (order : List Nat) : List Flight :=
  match sent with
  | none => []
  | some packet => order.map fun station => { packet, station }

private theorem framesTo_append (first second : List Flight) (station : Nat) :
    framesTo (first ++ second) station = framesTo first station ++ framesTo second station := by
  unfold framesTo
  rw [List.filter_append, List.map_append]

theorem station_launch {medium : Medium} {sender : Nat} {sent : Option Packet}
    {order : List Nat}
    (ties : order.Perm ((framesOf sent).flatMap fun _ => medium.hearers sender)) :
    (launch sent order).map Flight.station = order := by
  cases sent with
  | none => exact ties.symm.nil_eq
  | some packet =>
      unfold launch
      rw [List.map_map]
      exact List.map_id order

/-- Whatever the order, one frame comes to each hearer. -/
theorem framesTo_launch {medium : Medium} {sender index : Nat} {sent : Option Packet}
    {order : List Nat}
    (ties : order.Perm ((framesOf sent).flatMap fun _ => medium.hearers sender))
    (within : index < medium.stations.length) :
    framesTo (launch sent order) index =
      if medium.reaches sender index then framesOf sent else [] := by
  cases sent with
  | none => simp [launch, framesTo, framesOf]
  | some packet =>
      have hearing : order.Perm (medium.hearers sender) := by simpa [framesOf] using ties
      -- No station hears a transmission twice, so the order names each hearer once.
      have distinct := hearing.nodup_iff.mpr (medium.nodup_hearers sender)
      have member : index ∈ order ↔ medium.reaches sender index = true := by
        rw [hearing.mem_iff, Medium.mem_hearers]
        exact ⟨And.right, fun reached => ⟨within, reached⟩⟩
      unfold framesTo launch
      rw [List.filter_map, List.map_map]
      have chosen : (order.filter ((fun flight : Flight => decide (flight.station = index)) ∘
          fun station => { packet, station })) = if index ∈ order then [index] else [] := by
        refine (List.filter_beq index).trans ?_
        rw [distinct.count]
        split <;> rfl
      rw [chosen]
      by_cases reached : medium.reaches sender index = true
      · rw [if_pos (member.mpr reached), if_pos reached]
        rfl
      · rw [if_neg fun present => reached (member.mp present), if_neg reached]
        rfl

section Moves

variable {before after : Medium} {sender : Nat} {sent : Option Packet} {order : List Nat}
  {flight : Flight} {flights rest : List Flight}

theorem Aloft.sends (aloft : Aloft before flights)
    (moved : Medium.Moved before after none sender (framesOf sent))
    (ties : order.Perm ((framesOf sent).flatMap fun _ => before.hearers sender)) :
    Aloft after (flights ++ launch sent order) := by
  intro index within
  rw [moved.length] at within
  rw [moved.waitingAt index within, framesTo_append, framesTo_launch ties within,
    ← aloft index within]
  rfl

theorem Aloft.takes (aloft : Aloft before (flight :: rest))
    (moved : Medium.Moved before after (some flight.station) sender (framesOf sent))
    (ties : order.Perm ((framesOf sent).flatMap fun _ => before.hearers sender)) :
    Aloft after (rest ++ launch sent order) := by
  intro index within
  rw [moved.length] at within
  have left : before.leftAt (some flight.station) index = framesTo rest index := by
    unfold Medium.leftAt
    rw [aloft index within]
    unfold framesTo
    by_cases here : flight.station = index
    · rw [if_pos (congrArg some here), List.filter_cons_of_pos (by simpa using here)]
      rfl
    · rw [if_neg fun same => here (Option.some.inj same),
        List.filter_cons_of_neg (by simpa using here)]
  rw [moved.waitingAt index within, framesTo_append, framesTo_launch ties within, left]

end Moves

/-! ### One step -/

private theorem Packet.take_frame (packet : Packet) :
    packet.frame.take Inbox.bufferLength = packet.frame := by
  have short := Packet.frameLength_le packet
  apply List.take_of_length_le
  unfold Inbox.bufferLength
  omega

/-- The station at the head takes the frame of the oldest packet. -/
theorem Aloft.hears {traffic later : Traffic} {more : List Occurrence} {flight : Flight}
    {rest : List Flight} {now : Nat} (aloft : Aloft traffic.mesh.medium (flight :: rest))
    (free : traffic.mesh.medium.Unlimited)
    (stepped : traffic.step? (.hears { index := flight.station, verdict := none, now }) =
      some (more, later)) :
    ∃ node medium outcome effects after,
      traffic.mesh.nodes[flight.station]? = some node ∧
        flight.station < traffic.mesh.medium.stations.length ∧
        node.process { verdict := none, now } flight.packet.frame =
          { outcome, node := after, effects } ∧
        more = [.heard flight.packet.frame { index := flight.station, outcome, effects }] ∧
        Medium.Moved traffic.mesh.medium medium (some flight.station) flight.station
          (sentFrames effects) ∧
        later = traffic.worked medium flight.station after traffic.senders := by
  cases advance_of_step free stepped with
  | @heard _ node first others medium found waits attached moved =>
      have oldest : first = flight.packet.frame := by
        have listed := aloft flight.station attached
        rw [waits, framesTo, List.filter_cons_of_pos (by simp)] at listed
        exact (List.cons.inj listed).1
      subst oldest
      have reactionEq : Mesh.Reception.reaction
          { index := flight.station, verdict := none, now } node flight.packet.frame =
            node.process { verdict := none, now } flight.packet.frame := by
        rw [Mesh.Reception.reaction, Packet.take_frame]
        rfl
      refine ⟨node, medium, _, _, _, found, attached, reactionEq.symm, rfl, moved, rfl⟩

private theorem Traffic.Turned.framesOf {errand : Errand} {node after : Node} {sending : Sending}
    {frames : List Bytes} {next : Option Sending}
    (turn : Turned errand node sending frames after next) :
    ∃ sent, frames = framesOf sent := by
  cases turn with
  | composed | refused | numbered | announced | unannounced => exact ⟨none, rfl⟩
  | aired request => exact ⟨some request, rfl⟩

private theorem Node.framesOf_process (node : Node) (surroundings : Surroundings) (frame : Bytes) :
    ∃ sent, sentFrames (node.process surroundings frame).effects = framesOf sent := by
  rw [← sentFrames_deeds]
  rcases (course_process node surroundings frame).sent with silent | ⟨packet, _, passed | replied⟩
  · exact ⟨none, silent⟩
  · exact ⟨some packet.passedOn, passed⟩
  · obtain ⟨_, answer, sent⟩ := replied
    exact ⟨some (node.reply packet answer), sent⟩

theorem Traffic.airs_of_composed {traffic later : Traffic} {which : Nat} {sender : Sender}
    {node : Node} {request : Packet} {more : List Occurrence}
    (present : traffic.senders[which]? = some sender)
    (found : traffic.mesh.nodes[sender.station]? = some node)
    (composed : sender.sending = .composed request)
    (attached : sender.station < traffic.mesh.medium.stations.length)
    (stepped : traffic.step? (.proceeds which none) = some (more, later)) :
    more = [.requested sender.station request.frame] := by
  have ready : (traffic.mesh.tuned sender.station none).medium.verdictOf sender.station = none :=
    Medium.verdictOf_setVerdict none attached
  simp only [step?, proceed?, present, found, Option.bind_eq_bind, Option.bind_some, composed,
    ready, Sending.turn, Node.vet_frame, Option.some.injEq, Prod.mk.injEq] at stepped
  exact stepped.1.symm

theorem arrivals_requested (medium : Medium) (station : Nat) (frames : List Bytes) :
    (frames.map (Occurrence.requested station)).flatMap (Occurrence.arrivals medium) =
      frames.flatMap fun _ => medium.hearers station := by
  rw [List.flatMap_map]
  rfl

theorem arrivals_heard (medium : Medium) (frame : Bytes) (event : Mesh.Event) :
    [Occurrence.heard frame event].flatMap (Occurrence.arrivals medium) =
      (sentFrames event.effects).flatMap fun _ => medium.hearers event.index :=
  List.flatMap_singleton ..

/-- The queue names the stations of the packets that are on their way. -/
theorem Traffic.Punctual.aloft {start later : Traffic} {queue : List Nat}
    {past : List Occurrence} (punctual : Punctual start queue past later)
    (quiet : start.Quiet) :
    ∃ flights, queue = flights.map Flight.station ∧ Aloft later.mesh.medium flights := by
  induction punctual with
  | start => exact ⟨[], rfl, fun index _ => quiet.waiting index⟩
  | @sends queue order past more traffic later which punctual stepped ties ih =>
      have accounts := punctual.run.accounts quiet
      obtain ⟨flights, queueEq, aloft⟩ := ih
      cases advance_of_step accounts.unlimited stepped with
      | turned present found turn possible moved =>
          obtain ⟨sent, framesEq⟩ := turn.framesOf
          rw [framesEq] at ties moved
          rw [arrivals_requested, ← accounts.hearers] at ties
          refine ⟨flights ++ launch sent order, ?_, aloft.sends moved ties⟩
          rw [List.map_append, station_launch ties, queueEq]
  | @hears index now queue order past more traffic later punctual stepped ties ih =>
      have accounts := punctual.run.accounts quiet
      obtain ⟨flights, queueEq, aloft⟩ := ih
      cases flights with
      | nil => cases queueEq
      | cons flight rest =>
          obtain ⟨rfl, restEq⟩ := List.cons.inj queueEq
          obtain ⟨node, medium, outcome, effects, after, _, _, processed, moreEq, moved,
            laterEq⟩ := aloft.hears accounts.unlimited stepped
          obtain ⟨sent, sentEq⟩ := node.framesOf_process { verdict := none, now }
            flight.packet.frame
          rw [processed] at sentEq
          rw [moreEq, arrivals_heard, sentEq, ← accounts.hearers] at ties
          rw [sentEq] at moved
          refine ⟨rest ++ launch sent order, ?_, ?_⟩
          · rw [List.map_append, station_launch ties, restEq]
          · rw [laterEq]
            exact aloft.takes moved ties

/-! ### To the end -/

structure Traffic.Staffed (traffic : Traffic) : Prop where
  nodes : traffic.mesh.nodes.length = traffic.mesh.medium.stations.length
  senders : ∀ sender ∈ traffic.senders, sender.station < traffic.mesh.nodes.length

private theorem Traffic.Punctual.staffed {start later : Traffic} {queue : List Nat}
    {past : List Occurrence} (punctual : Punctual start queue past later)
    (quiet : start.Quiet) (staffed : start.Staffed) : later.Staffed := by
  induction punctual with
  | start => exact staffed
  | sends punctual stepped ties ih =>
      have accounts := punctual.run.accounts quiet
      cases advance_of_step accounts.unlimited stepped with
      | turned present found turn possible moved =>
          constructor
          · rw [List.length_set, moved.length]
            exact ih.nodes
          · intro sender member
            rw [List.length_set]
            rcases mem_advanced member with old | ⟨sending, _, new⟩
            · exact ih.senders sender old
            · have before := ih.senders _ (List.mem_of_getElem? present)
              rw [new]
              exact before
  | hears punctual stepped ties ih =>
      have accounts := punctual.run.accounts quiet
      cases advance_of_step accounts.unlimited stepped with
      | heard found waits attached moved =>
          constructor
          · rw [List.length_set, moved.length]
            exact ih.nodes
          · rw [List.length_set]
            exact ih.senders

def turnsLeft (senders : List Sender) : Nat :=
  (senders.map fun sender => sender.sending.turnsLeft).sum

private theorem Traffic.Turned.turnsLeft {errand : Errand} {node after : Node} {sending : Sending}
    {frames : List Bytes} {next : Option Sending}
    (turn : Turned errand node sending frames after next) :
    (next.map Sending.turnsLeft).getD 0 < sending.turnsLeft := by
  cases turn <;> simp [Sending.turnsLeft]

/-- The first sender can always take its turn. -/
theorem Traffic.Punctual.exists_send {start traffic : Traffic} {queue : List Nat}
    {past : List Occurrence} (punctual : Punctual start queue past traffic)
    (quiet : start.Quiet) (staffed : start.Staffed) (busy : traffic.senders ≠ []) :
    ∃ order more later, Punctual start (queue ++ order) (past ++ more) later ∧
      turnsLeft later.senders < turnsLeft traffic.senders := by
  have accounts := punctual.run.accounts quiet
  obtain ⟨sender, others, sendersEq⟩ := List.exists_cons_of_ne_nil busy
  have within := (punctual.staffed quiet staffed).senders sender (by rw [sendersEq]; simp)
  have found := List.getElem?_eq_getElem within
  have possible : (traffic.step? (.proceeds 0 none)).isSome = true := by
    simp only [step?, proceed?, sendersEq, List.getElem?_cons_zero, found,
      Option.bind_eq_bind, Option.bind_some]
    split <;> rfl
  obtain ⟨⟨more, later⟩, stepped⟩ := Option.isSome_iff_exists.mp possible
  refine ⟨_, more, later, punctual.sends stepped (.refl _), ?_⟩
  cases advance_of_step accounts.unlimited stepped with
  | @turned _ _ taker node after frames next medium present _ turn _ moved =>
      rw [sendersEq] at present
      cases present
      have fewer := turn.turnsLeft
      cases next with
      | none =>
          simp only [advanced, sendersEq, List.eraseIdx_cons_zero, turnsLeft, List.map_cons,
            List.sum_cons]
          simp only [Option.map_none, Option.getD_none] at fewer
          omega
      | some sending =>
          simp only [advanced, sendersEq, List.set_cons_zero, turnsLeft, List.map_cons,
            List.sum_cons]
          simp only [Option.map_some, Option.getD_some] at fewer
          omega

private theorem Traffic.Punctual.within {start later : Traffic} {queue : List Nat}
    {past : List Occurrence} (punctual : Punctual start queue past later) :
    ∀ index ∈ queue, index < start.mesh.medium.stations.length := by
  have arriving : ∀ (order : List Nat) (more : List Occurrence),
      order.Perm (more.flatMap (Occurrence.arrivals start.mesh.medium)) →
        ∀ index ∈ order, index < start.mesh.medium.stations.length := by
    intro order more ties index member
    obtain ⟨occurrence, _, arrives⟩ := List.mem_flatMap.mp (ties.mem_iff.mp member)
    cases occurrence with
    | requested station frame => exact (Medium.mem_hearers.mp arrives).1
    | heard frame event =>
        obtain ⟨_, _, hears⟩ := List.mem_flatMap.mp arrives
        exact (Medium.mem_hearers.mp hears).1
  induction punctual with
  | start =>
      intro index impossible
      cases impossible
  | sends punctual stepped ties ih =>
      intro index member
      rcases List.mem_append.mp member with old | new
      · exact ih index old
      · exact arriving _ _ ties index new
  | hears punctual stepped ties ih =>
      intro index member
      rcases List.mem_append.mp member with old | new
      · exact ih index (List.mem_cons_of_mem _ old)
      · exact arriving _ _ ties index new

private theorem Mesh.isSome_hear? {mesh : Mesh} {index now : Nat} {verdict : Verdict}
    (staffed : index < mesh.nodes.length) (waits : mesh.medium.waitingAt index ≠ []) :
    (mesh.hear? { index, verdict, now }).isSome = true := by
  have waits : (mesh.tuned index verdict).medium.waitingAt index ≠ [] := by
    rw [tuned, Medium.waitingAt_setVerdict]
    exact waits
  unfold Medium.waitingAt at waits
  unfold hear? receive? Medium.receive?
  cases present : (mesh.tuned index verdict).medium.stations[index]? with
  | none => simp [present] at waits
  | some station =>
      obtain ⟨first, rest, frames⟩ :
          ∃ first rest, station.inbox.frames = first :: rest := by
        apply List.exists_cons_of_ne_nil
        simpa [present] using waits
      simp [Inbox.take?, frames, process?, tuned, staffed]

/-- The station at the head can always take its frame. -/
theorem Traffic.Punctual.exists_hear {start traffic : Traffic} {index : Nat}
    {queue : List Nat} {past : List Occurrence}
    (punctual : Punctual start (index :: queue) past traffic) (quiet : start.Quiet)
    (staffed : start.Staffed) :
    ∃ order more later, Punctual start (queue ++ order) (past ++ more) later ∧
      later.senders = traffic.senders ∧
      Flood.load later.mesh.medium.stations.length later.mesh.medium <
        Flood.load traffic.mesh.medium.stations.length traffic.mesh.medium := by
  have accounts := punctual.run.accounts quiet
  have here := punctual.within index List.mem_cons_self
  obtain ⟨flights, queueEq, aloft⟩ := punctual.aloft quiet
  cases flights with
  | nil => cases queueEq
  | cons flight rest =>
      obtain ⟨rfl, _⟩ := List.cons.inj queueEq
      have attached : flight.station < traffic.mesh.medium.stations.length := by
        rwa [accounts.length]
      have waits := aloft flight.station attached
      rw [framesTo, List.filter_cons_of_pos (by simp), List.map_cons] at waits
      have possible : (traffic.mesh.hear?
          { index := flight.station, verdict := none, now := 0 }).isSome = true := by
        apply Mesh.isSome_hear?
        · rw [(punctual.staffed quiet staffed).nodes]
          exact attached
        · rw [waits]
          exact List.cons_ne_nil _ _
      obtain ⟨⟨event, mesh⟩, heard⟩ := Option.isSome_iff_exists.mp possible
      have stepped : traffic.step?
          (.hears { index := flight.station, verdict := none, now := 0 }) =
            some ([.heard flight.packet.frame event], { traffic with mesh }) := by
        simp only [step?, waits, heard, List.head?_cons, Option.bind_eq_bind, Option.bind_some]
      refine ⟨_, _, _, punctual.hears stepped (.refl _), rfl, ?_⟩
      have used := Mesh.load_hear? heard
      rw [Mesh.length_hear? heard]
      exact used

/-- Once every sender is done, all that is under way comes to its end. -/
theorem Traffic.Punctual.drains {start traffic : Traffic} {queue : List Nat}
    {past : List Occurrence} (punctual : Punctual start queue past traffic)
    (quiet : start.Quiet) (staffed : start.Staffed) (idle : traffic.senders = []) :
    ∃ more final, Punctual start [] (past ++ more) final ∧ final.senders = [] := by
  -- Whatever a frame sets off, taking it lowers the load on the air.
  induction load : Flood.load traffic.mesh.medium.stations.length traffic.mesh.medium
    using Nat.strong_induction_on generalizing queue past traffic with
  | _ load ih =>
      cases queue with
      | nil =>
          refine ⟨[], traffic, ?_, idle⟩
          rw [List.append_nil]
          exact punctual
      | cons index rest =>
          obtain ⟨order, first, later, onward, sendersEq, less⟩ :=
            punctual.exists_hear quiet staffed
          obtain ⟨more, final, ended, done⟩ :=
            ih _ (by rw [← load]; exact less) onward (sendersEq.trans idle) rfl
          rw [List.append_assoc] at ended
          exact ⟨first ++ more, final, ended, done⟩

/-- Whatever has happened so far, such a run can go on until nothing is under way
and every sender is done. -/
theorem Traffic.Punctual.settles {start traffic : Traffic} {queue : List Nat}
    {past : List Occurrence} (punctual : Punctual start queue past traffic)
    (quiet : start.Quiet) (staffed : start.Staffed) :
    ∃ more final, Punctual start [] (past ++ more) final ∧ final.senders = [] := by
  -- The senders finish first, since each of their turns leaves fewer of them.
  induction turns : turnsLeft traffic.senders
    using Nat.strong_induction_on generalizing queue past traffic with
  | _ turns ih =>
      by_cases idle : traffic.senders = []
      · exact punctual.drains quiet staffed idle
      · obtain ⟨order, first, later, onward, less⟩ := punctual.exists_send quiet staffed idle
        obtain ⟨more, final, ended, done⟩ := ih _ (by rw [← turns]; exact less) onward rfl
        rw [List.append_assoc] at ended
        exact ⟨first ++ more, final, ended, done⟩

end FloodMesh
