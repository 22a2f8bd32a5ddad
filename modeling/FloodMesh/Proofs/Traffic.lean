/-
Traffic: a mesh whose frames come from its own nodes only.

Pollers send requests in turns of their own, relays take the frames that wait,
and other tasks of a node may change it at any time. Runs are all orders of
these moves under all answers of the radios. What is on the record of a run is
what was requested and what was heard.
-/

import FloodMesh.Proofs.Reception

namespace FloodMesh

/-! ### Moves -/

structure Sender where
  station : Nat
  errand : Errand
  sending : Sending := .starting

structure Traffic where
  mesh : Mesh
  senders : List Sender := []

namespace Traffic

inductive Move
  | begins (station : Nat) (errand : Errand)
  | proceeds (which : Nat) (verdict : Verdict)
  | hears (reception : Mesh.Reception)
  /-- Other tasks have made this of a node. -/
  | tends (station : Nat) (node : Node)

inductive Occurrence
  /-- A station's radio took the frame of a request. -/
  | requested (station : Nat) (frame : Bytes)
  /-- The oldest waiting frame was taken, and this came of it. -/
  | heard (frame : Bytes) (event : Mesh.Event)

def proceed? (traffic : Traffic) (which : Nat) (verdict : Verdict) :
    Option (List Occurrence × Traffic) := do
  let sender ← traffic.senders[which]?
  let node ← traffic.mesh.nodes[sender.station]?
  let tuned := traffic.mesh.tuned sender.station verdict
  match sender.sending.turn sender.errand (tuned.medium.verdictOf sender.station) node with
  | .goesOn sending node effects =>
      some
        ((sentFrames effects).map (.requested sender.station),
          { mesh := tuned.commit sender.station node effects
            senders := traffic.senders.set which { sender with sending } })
  | .ends _ node =>
      some
        ([],
          { mesh := tuned.commit sender.station node []
            senders := traffic.senders.eraseIdx which })

def step? (traffic : Traffic) : Move → Option (List Occurrence × Traffic)
  | .begins station errand =>
      some ([], { traffic with senders := traffic.senders ++ [{ station, errand }] })
  | .proceeds which verdict => traffic.proceed? which verdict
  | .hears reception => do
      let frame ← (traffic.mesh.medium.waitingAt reception.index).head?
      let (event, mesh) ← traffic.mesh.hear? reception
      some ([.heard frame event], { traffic with mesh })
  | .tends station node =>
      some
        ([],
          { traffic with
            mesh := { traffic.mesh with nodes := traffic.mesh.nodes.set station node } })

inductive Run (allowed : Traffic → Move → Prop) (start : Traffic) :
    List Occurrence → Traffic → Prop
  | start : Run allowed start [] start
  | step {past more : List Occurrence} {traffic later : Traffic} {move : Move}
      (run : Run allowed start past traffic) (permitted : allowed traffic move)
      (stepped : traffic.step? move = some (more, later)) :
      Run allowed start (past ++ more) later

theorem Run.mono {allowed wider : Traffic → Move → Prop} {start later : Traffic}
    {past : List Occurrence}
    (admits : ∀ traffic move, allowed traffic move → wider traffic move)
    (run : Run allowed start past later) : Run wider start past later := by
  induction run with
  | start => exact .start
  | step run permitted stepped ih => exact .step ih (admits _ _ permitted) stepped

/-- Makes the moves in order, or none if one is not allowed or not possible. -/
def follow? (allowed : Traffic → Move → Bool) (traffic : Traffic) :
    List Move → Option (List Occurrence × Traffic)
  | [] => some ([], traffic)
  | move :: rest =>
      if allowed traffic move then
        (traffic.step? move).bind fun (more, later) =>
          (later.follow? allowed rest).map fun (others, final) => (more ++ others, final)
      else none

theorem Run.follow {allowed : Traffic → Move → Bool} {start traffic later : Traffic}
    {past more : List Occurrence}
    (run : Run (fun traffic move => allowed traffic move = true) start past traffic)
    {moves : List Move} (followed : traffic.follow? allowed moves = some (more, later)) :
    Run (fun traffic move => allowed traffic move = true) start (past ++ more) later := by
  induction moves generalizing past more traffic with
  | nil =>
      cases followed
      rw [List.append_nil]
      exact run
  | cons move rest ih =>
      unfold follow? at followed
      by_cases permitted : allowed traffic move = true
      · rw [if_pos permitted] at followed
        obtain ⟨⟨first, middle⟩, stepped, remaining⟩ := Option.bind_eq_some_iff.mp followed
        obtain ⟨⟨others, final⟩, followedRest, same⟩ := Option.map_eq_some_iff.mp remaining
        cases same
        rw [← List.append_assoc]
        exact ih (run.step permitted stepped) followedRest
      · rw [if_neg permitted] at followed
        cases followed

/-! ### What a move does -/

/-- One turn of a sender: what it puts on the air, and the node and the sender
after it. -/
inductive Turned (errand : Errand) (node : Node) :
    Sending → List Bytes → Node → Option Sending → Prop
  | composed :
      Turned errand node .starting [] node (some (.composed (Sending.compose errand node)))
  | refused (request : Packet) : Turned errand node (.composed request) [] node none
  | aired (request : Packet) :
      Turned errand node (.composed request) [request.frame] node (some (.accepted request))
  | numbered (request : Packet) :
      Turned errand node (.accepted request) [] { node with sequence := node.sequence + 1 }
        (some (.numbered request))
  | announced (request : Packet) (announces : errand.announces = true) :
      Turned errand node (.numbered request) [] (node.announce request.fingerprint) none
  | unannounced (request : Packet) (silent : errand.announces = false) :
      Turned errand node (.numbered request) [] node none

def advanced (senders : List Sender) (which : Nat) (sender : Sender) :
    Option Sending → List Sender
  | some sending => senders.set which { sender with sending }
  | none => senders.eraseIdx which

inductive Advance (traffic : Traffic) : Move → List Occurrence → Traffic → Prop
  | began (station : Nat) (errand : Errand) :
      Advance traffic (.begins station errand) []
        { traffic with senders := traffic.senders ++ [{ station, errand }] }
  | turned {which : Nat} {verdict : Verdict} {sender : Sender} {node after : Node}
      {frames : List Bytes} {next : Option Sending} {medium : Medium}
      (present : traffic.senders[which]? = some sender)
      (found : traffic.mesh.nodes[sender.station]? = some node)
      (turn : Turned sender.errand node sender.sending frames after next)
      (possible : frames = [] ∨ sender.station < traffic.mesh.medium.stations.length)
      (moved : Medium.Moved traffic.mesh.medium medium none sender.station frames) :
      Advance traffic (.proceeds which verdict) (frames.map (.requested sender.station))
        { mesh := { medium, nodes := traffic.mesh.nodes.set sender.station after }
          senders := advanced traffic.senders which sender next }
  | heard {reception : Mesh.Reception} {node : Node} {first : Bytes} {rest : List Bytes}
      {medium : Medium}
      (found : traffic.mesh.nodes[reception.index]? = some node)
      (waits : traffic.mesh.medium.waitingAt reception.index = first :: rest)
      (attached : reception.index < traffic.mesh.medium.stations.length)
      (moved : Medium.Moved traffic.mesh.medium medium (some reception.index) reception.index
        (sentFrames (reception.reaction node first).effects)) :
      Advance traffic (.hears reception)
        [.heard first (reception.event node first)]
        { traffic with
          mesh :=
            { medium
              nodes := traffic.mesh.nodes.set reception.index
                (reception.reaction node first).node } }
  | tended (station : Nat) (node : Node) :
      Advance traffic (.tends station node) []
        { traffic with
          mesh := { traffic.mesh with nodes := traffic.mesh.nodes.set station node } }

private theorem turned_of_goesOn {errand : Errand} {verdict : Verdict} {node after : Node}
    {sending next : Sending} {effects : List Effect}
    (went : sending.turn errand verdict node = .goesOn next after effects) :
    Turned errand node sending (sentFrames effects) after (some next) ∧
      (sentFrames effects ≠ [] → verdict = none) := by
  cases sending with
  | starting =>
      cases went
      exact ⟨.composed, fun aired => absurd rfl aired⟩
  | composed request =>
      simp only [Sending.turn, Node.vet_frame] at went
      cases verdict with
      | some fault => cases went
      | none =>
          cases went
          exact ⟨.aired request, fun _ => rfl⟩
  | accepted request =>
      cases went
      exact ⟨.numbered request, fun aired => absurd rfl aired⟩
  | numbered request => cases went

private theorem turned_of_ends {errand : Errand} {verdict : Verdict} {node after : Node}
    {sending : Sending} {result : Except RadioFault Fingerprint}
    (ended : sending.turn errand verdict node = .ends result after) :
    Turned errand node sending [] after none := by
  cases sending with
  | starting => cases ended
  | composed request =>
      simp only [Sending.turn, Node.vet_frame] at ended
      cases verdict with
      | some fault =>
          cases ended
          exact .refused request
      | none => cases ended
  | accepted request => cases ended
  | numbered request =>
      cases told : errand.announces with
      | true =>
          simp only [Sending.turn, told, if_true] at ended
          cases ended
          exact .announced request told
      | false =>
          simp only [Sending.turn, told, Bool.false_eq_true, if_false] at ended
          cases ended
          exact .unannounced request told

/-- A radio that takes a frame is attached. -/
theorem attached_of_verdictOf {medium : Medium} {index : Nat}
    (accepted : medium.verdictOf index = none) : index < medium.stations.length := by
  unfold Medium.verdictOf at accepted
  cases present : medium.stations[index]? with
  | none =>
      rw [present] at accepted
      cases accepted
  | some station => exact (List.getElem?_eq_some_iff.mp present).1

private theorem advance_of_proceed {traffic later : Traffic} {which : Nat} {verdict : Verdict}
    {more : List Occurrence} (free : traffic.mesh.medium.Unlimited)
    (proceeded : traffic.proceed? which verdict = some (more, later)) :
    Advance traffic (.proceeds which verdict) more later := by
  unfold proceed? at proceeded
  cases present : traffic.senders[which]? with
  | none =>
      rw [present] at proceeded
      cases proceeded
  | some sender =>
      cases found : traffic.mesh.nodes[sender.station]? with
      | none => simp [present, found] at proceeded
      | some node =>
          have tuned := Medium.moved_setVerdict free sender.station sender.station verdict
          simp only [present, found, Option.bind_eq_bind, Option.bind_some] at proceeded
          cases turn : sender.sending.turn sender.errand
              ((traffic.mesh.tuned sender.station verdict).medium.verdictOf sender.station)
              node with
          | goesOn next after effects =>
              obtain ⟨turned, accepted⟩ := turned_of_goesOn turn
              have possible : sentFrames effects = [] ∨
                  sender.station < traffic.mesh.medium.stations.length := by
                by_cases silent : sentFrames effects = []
                · exact .inl silent
                · have attached := attached_of_verdictOf (accepted silent)
                  rw [Mesh.tuned, Medium.length_setVerdict] at attached
                  exact .inr attached
              rw [turn] at proceeded
              cases proceeded
              exact .turned present found turned possible (tuned.carry possible)
          | ends result after =>
              rw [turn] at proceeded
              cases proceeded
              exact .turned present found (turned_of_ends turn) (.inl rfl) tuned

/-- Every move does one of four things. -/
theorem advance_of_step {traffic later : Traffic} {move : Move} {more : List Occurrence}
    (free : traffic.mesh.medium.Unlimited) (stepped : traffic.step? move = some (more, later)) :
    Advance traffic move more later := by
  cases move with
  | begins station errand =>
      cases stepped
      exact .began station errand
  | proceeds which verdict => exact advance_of_proceed free stepped
  | hears reception =>
      cases hearing : traffic.mesh.hear? reception with
      | none =>
          simp [step?, hearing] at stepped
      | some heard =>
          obtain ⟨event, mesh⟩ := heard
          obtain ⟨node, first, rest, taken, found, waits, attached, took, eventEq, meshEq⟩ :=
            Mesh.hear?_eq_some hearing
          simp only [step?, hearing, waits, Option.bind_eq_bind, Option.bind_some,
            List.head?_cons] at stepped
          cases stepped
          subst eventEq meshEq
          have moved := took.moved waits free reception.index
          exact .heard found waits attached (moved.carry (.inr attached))
  | tends station node =>
      cases stepped
      exact .tended station node

end Traffic

end FloodMesh
