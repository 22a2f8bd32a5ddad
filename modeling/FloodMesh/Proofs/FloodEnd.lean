/-
Every flood ends.

The duplicate memories cannot be relied on for this: a memory may have no slot
or forget too soon. What ends a flood is the hop budget. Each waiting frame is
given a cost, the receptions it can cause at most; a copy sent on costs less
than the copy it was made from, even times the number of its hearers, and so
does a reply, which starts over with the hops its request had left but is
never answered itself. Every reception uses up at least one unit, so no
sequence of receptions is longer than what waits at its start costs.
-/

import FloodMesh.Proofs.Reception
import Mathlib

namespace FloodMesh

namespace Flood

/-- What a packet that is never answered costs with this many hops left. -/
def relayCost (stations : Nat) : Nat → Nat
  | 0 => 1
  | hops + 1 => 1 + (stations - 1) * relayCost stations hops

/-- What a request costs: it is sent on as a request or answered. -/
def requestCost (stations : Nat) : Nat → Nat
  | 0 => 1
  | hops + 1 =>
      1 + (stations - 1) * max (requestCost stations hops) (relayCost stations (hops + 1))

def packetCost (stations : Nat) (packet : Packet) : Nat :=
  if packet.kind = .request then requestCost stations packet.hops.toNat
  else relayCost stations packet.hops.toNat

/-- The cost of a waiting frame; what reads as no packet is taken and dropped. -/
def frameCost (stations : Nat) (frame : Bytes) : Nat :=
  match Packet.decode (frame.take Inbox.bufferLength) with
  | .ok packet => packetCost stations packet
  | .error _ => 1

def bound (stations : Nat) (waiting : List Bytes) : Nat :=
  (waiting.map (frameCost stations)).sum

private theorem relayCost_pos (stations hops : Nat) : 0 < relayCost stations hops := by
  cases hops with
  | zero => exact Nat.one_pos
  | succ rest =>
      unfold relayCost
      omega

private theorem requestCost_pos (stations hops : Nat) : 0 < requestCost stations hops := by
  cases hops with
  | zero => exact Nat.one_pos
  | succ rest =>
      unfold requestCost
      omega

private theorem packetCost_pos (stations : Nat) (packet : Packet) :
    0 < packetCost stations packet := by
  unfold packetCost
  split
  · exact requestCost_pos stations packet.hops.toNat
  · exact relayCost_pos stations packet.hops.toNat

private theorem frameCost_pos (stations : Nat) (frame : Bytes) : 0 < frameCost stations frame := by
  unfold frameCost
  split
  · exact packetCost_pos stations _
  · exact Nat.one_pos

private theorem frameCost_of_reads {stations : Nat} {frame : Bytes} {packet : Packet}
    (reads : Packet.decode (frame.take Inbox.bufferLength) = .ok packet) :
    frameCost stations frame = packetCost stations packet := by
  unfold frameCost
  rw [reads]

/-- An inbox that cuts a packet's frame does not make it dearer. -/
theorem frameCost_take (stations : Nat) (packet : Packet) (room : Nat) :
    frameCost stations (packet.frame.take room) ≤ packetCost stations packet := by
  cases reads : Packet.decode ((packet.frame.take room).take Inbox.bufferLength) with
  | error failure =>
      unfold frameCost
      rw [reads]
      exact packetCost_pos stations packet
  | ok heard =>
      rw [frameCost_of_reads reads]
      rw [List.take_take] at reads
      have whole := Packet.take_frame_eq_of_decode reads
      rw [whole, Packet.decode_frame] at reads
      cases reads
      exact Nat.le_refl _

/-! ### One frame's work -/

theorem toNat_pred {hops : UInt8} (alive : hops ≠ 0) : hops.toNat = (hops - 1).toNat + 1 := by
  have positive : hops.toNat ≠ 0 := fun zero => alive (UInt8.toNat_inj.mp zero)
  have atLeastOne : (1 : UInt8) ≤ hops := by
    rw [UInt8.le_iff_toNat_le]
    exact Nat.one_le_iff_ne_zero.mpr positive
  rw [UInt8.toNat_sub_of_le _ _ atLeastOne]
  have one : (1 : UInt8).toNat = 1 := rfl
  omega

private theorem passedOn_costs (stations : Nat) {packet : Packet} (alive : packet.hops ≠ 0) :
    1 + (stations - 1) * packetCost stations packet.passedOn ≤ packetCost stations packet := by
  have fewer := toNat_pred alive
  have sameKind : packet.passedOn.kind = packet.kind := rfl
  have fewerHops : packet.passedOn.hops = packet.hops - 1 := rfl
  unfold packetCost
  rw [sameKind, fewerHops, fewer]
  by_cases asks : packet.kind = .request
  · rw [if_pos asks, if_pos asks, requestCost]
    exact Nat.add_le_add_left (Nat.mul_le_mul_left _ (Nat.le_max_left ..)) 1
  · rw [if_neg asks, if_neg asks, relayCost]

private theorem reply_costs (stations : Nat) {packet : Packet} (node : Node) (answer : ProbeAnswer)
    (asked : packet.kind = .request) (alive : packet.hops ≠ 0) :
    1 + (stations - 1) * packetCost stations (node.reply packet answer) ≤
      packetCost stations packet := by
  have fewer := toNat_pred alive
  have sameHops : (node.reply packet answer).hops = packet.hops := rfl
  have answers : (node.reply packet answer).kind ≠ .request := by
    cases answer <;> exact fun same => by cases same
  unfold packetCost
  rw [if_pos asked, if_neg answers, sameHops, fewer, requestCost]
  exact Nat.add_le_add_left (Nat.mul_le_mul_left _ (Nat.le_max_right ..)) 1

/-- A node sends frames of packets only, and these cost less than the frame it
took, even if every other station hears them. -/
theorem process_costs (stations : Nat) (node : Node) (surroundings : Surroundings)
    (waiting : Bytes) :
    ∃ sent : List Packet,
      sentFrames
          (node.process surroundings (waiting.take Inbox.bufferLength)).effects =
        sent.map Packet.frame ∧
      1 + (stations - 1) * (sent.map (packetCost stations)).sum ≤
        frameCost stations waiting := by
  rw [← sentFrames_deeds]
  rcases (course_process node surroundings (waiting.take Inbox.bufferLength)).sent with
    silent | ⟨packet, admitted, passed | ⟨asked, answer, answered⟩⟩
  · exact ⟨[], silent, frameCost_pos stations waiting⟩
  · obtain ⟨_, _, reads, alive, _⟩ := Node.examine_eq_ok_iff.mp admitted
    refine ⟨[packet.passedOn], passed, ?_⟩
    rw [frameCost_of_reads reads, List.map_singleton, List.sum_singleton]
    exact passedOn_costs stations alive
  · obtain ⟨_, _, reads, alive, _⟩ := Node.examine_eq_ok_iff.mp admitted
    refine ⟨[node.reply packet answer], answered, ?_⟩
    rw [frameCost_of_reads reads, List.map_singleton, List.sum_singleton]
    exact reply_costs stations node answer asked alive

/-! ### The load of a medium -/

def load (stations : Nat) (medium : Medium) : Nat := bound stations medium.waiting

private theorem load_eq_sum (stations : Nat) (medium : Medium) :
    load stations medium =
      ∑ index ∈ Finset.range medium.stations.length,
        bound stations (medium.waitingAt index) := by
  unfold load bound Medium.waiting
  rw [List.map_flatMap, List.flatMap_def, List.sum_flatten, List.map_map]
  rfl

/-- One station's share of the load apart from the others'. -/
theorem load_eq_add (stations : Nat) {medium : Medium} {index : Nat}
    (attached : index < medium.stations.length) :
    load stations medium =
      bound stations (medium.waitingAt index) +
        ∑ other ∈ (Finset.range medium.stations.length).erase index,
          bound stations (medium.waitingAt other) := by
  rw [load_eq_sum]
  exact (Finset.add_sum_erase _ _ (Finset.mem_range.mpr attached)).symm

private theorem load_took {before after : Medium} {index : Nat} {first : Bytes} {rest : List Bytes}
    (stations : Nat) (took : Medium.Took before after index rest)
    (waits : before.waitingAt index = first :: rest)
    (attached : index < before.stations.length) :
    load stations before = frameCost stations first + load stations after := by
  have attachedAfter : index < after.stations.length := by rwa [took.length]
  rw [load_eq_add stations attached, load_eq_add stations attachedAfter, took.length, waits,
    took.waitingAt index, if_pos rfl]
  have others :
      ∑ other ∈ (Finset.range before.stations.length).erase index,
          bound stations (after.waitingAt other) =
        ∑ other ∈ (Finset.range before.stations.length).erase index,
          bound stations (before.waitingAt other) := by
    apply Finset.sum_congr rfl
    intro other member
    rw [took.waitingAt, if_neg (Finset.ne_of_mem_erase member)]
  rw [others]
  unfold bound
  rw [List.map_cons, List.sum_cons]
  exact Nat.add_assoc ..

private theorem bound_append (stations : Nat) (first second : List Bytes) :
    bound stations (first ++ second) = bound stations first + bound stations second := by
  unfold bound
  rw [List.map_append, List.sum_append]

/-- An arriving packet adds no more than its own cost, even to an inbox that
cuts it or drops another frame for it. -/
theorem bound_arrive (stations : Nat) (inbox : Inbox) (packet : Packet) :
    bound stations (inbox.arrive packet.frame).frames ≤
      bound stations inbox.frames + packetCost stations packet := by
  have keeps : bound stations inbox.keptForArrival ≤ bound stations inbox.frames := by
    unfold Inbox.keptForArrival
    split
    · exact Nat.le_refl _
    · split
      · cases inbox.frames with
        | nil => exact Nat.le_refl _
        | cons oldest others =>
            unfold bound
            rw [List.map_cons, List.sum_cons]
            exact Nat.le_add_left ..
      · exact Nat.le_refl _
  have costs : bound stations [inbox.cut packet.frame] ≤ packetCost stations packet := by
    unfold bound
    rw [List.map_singleton, List.sum_singleton]
    unfold Inbox.cut
    split
    · rw [← List.take_length (l := packet.frame)]
      exact frameCost_take stations packet _
    · exact frameCost_take stations packet _
  have arrived : (inbox.arrive packet.frame).frames =
      inbox.keptForArrival ++ [inbox.cut packet.frame] := rfl
  rw [arrived, bound_append]
  exact Nat.add_le_add keeps costs

private theorem bound_broadcast (stations : Nat) (medium : Medium) (sender index : Nat)
    (packet : Packet) :
    bound stations ((medium.broadcast sender packet.frame).waitingAt index) ≤
      bound stations (medium.waitingAt index) +
        if index = sender then 0 else packetCost stations packet := by
  unfold Medium.waitingAt
  rw [Medium.getElem?_broadcast]
  cases medium.stations[index]? with
  | none => exact Nat.zero_le _
  | some station =>
      by_cases same : index = sender
      · simp [same]
      · by_cases hears : medium.linked sender index = true
        · simp only [Option.map_some, if_neg same, if_pos hears, Option.getD_some]
          exact bound_arrive stations station.inbox packet
        · simp [same, hears]

private theorem load_broadcast (stations : Nat) {medium : Medium} {sender : Nat} (packet : Packet)
    (attached : sender < medium.stations.length) :
    load stations (medium.broadcast sender packet.frame) ≤
      load stations medium +
        (medium.stations.length - 1) * packetCost stations packet := by
  have attachedAfter : sender < (medium.broadcast sender packet.frame).stations.length := by
    rwa [Medium.length_broadcast]
  rw [load_eq_add stations attached, load_eq_add stations attachedAfter,
    Medium.length_broadcast]
  have own := bound_broadcast stations medium sender sender packet
  rw [if_pos rfl] at own
  have hearers :
      ∑ other ∈ (Finset.range medium.stations.length).erase sender,
          bound stations ((medium.broadcast sender packet.frame).waitingAt other) ≤
        ∑ other ∈ (Finset.range medium.stations.length).erase sender,
          (bound stations (medium.waitingAt other) + packetCost stations packet) := by
    apply Finset.sum_le_sum
    intro other member
    have heard := bound_broadcast stations medium sender other packet
    rwa [if_neg (Finset.ne_of_mem_erase member)] at heard
  rw [Finset.sum_add_distrib, Finset.sum_const,
    Finset.card_erase_of_mem (Finset.mem_range.mpr attached), Finset.card_range,
    Nat.nsmul_eq_mul] at hearers
  omega

private theorem load_carry (stations : Nat) {medium : Medium} {sender : Nat} (sent : List Packet)
    (attached : sender < medium.stations.length) :
    load stations
        ((sent.map Packet.frame).foldl
          (fun medium frame => medium.broadcast sender frame) medium) ≤
      load stations medium +
        (medium.stations.length - 1) * (sent.map (packetCost stations)).sum := by
  induction sent generalizing medium with
  | nil => exact Nat.le_refl _
  | cons packet rest ih =>
      have attachedAfter : sender < (medium.broadcast sender packet.frame).stations.length := by
        rwa [Medium.length_broadcast]
      have later := ih attachedAfter
      have first := load_broadcast stations packet attached
      rw [Medium.length_broadcast] at later
      rw [List.map_cons, List.foldl_cons, List.map_cons, List.sum_cons, Nat.mul_add]
      omega

end Flood

/-! ### Sequences of receptions -/

namespace Mesh

private theorem length_carry (medium : Medium) (sender : Nat) (effects : List Effect) :
    (carry medium sender effects).stations.length = medium.stations.length := by
  rw [carry_eq]
  induction sentFrames effects generalizing medium with
  | nil => rfl
  | cons frame rest ih =>
      rw [List.foldl_cons, ih, Medium.length_broadcast]

theorem length_hear? {mesh later : Mesh} {reception : Reception} {event : Event}
    (heard : mesh.hear? reception = some (event, later)) :
    later.medium.stations.length = mesh.medium.stations.length := by
  obtain ⟨node, first, rest, taken, _, _, _, took, _, laterEq⟩ := hear?_eq_some heard
  rw [laterEq]
  exact (length_carry ..).trans took.length

/-- Every reception uses up at least one unit of the load. -/
theorem load_hear? {mesh later : Mesh} {reception : Reception} {event : Event}
    (heard : mesh.hear? reception = some (event, later)) :
    Flood.load mesh.medium.stations.length later.medium + 1 ≤
      Flood.load mesh.medium.stations.length mesh.medium := by
  obtain ⟨node, first, rest, taken, _, waits, attached, took, _, laterEq⟩ :=
    hear?_eq_some heard
  obtain ⟨sent, sentEq, cheaper⟩ :=
    Flood.process_costs mesh.medium.stations.length node reception.surroundings first
  have attachedAfter : reception.index < taken.stations.length := by rwa [took.length]
  have carried := Flood.load_carry mesh.medium.stations.length sent attachedAfter
  have before := Flood.load_took mesh.medium.stations.length took waits attached
  rw [took.length] at carried
  rw [laterEq, before]
  simp only
  rw [carry_eq, Reception.reaction, sentEq]
  omega

private theorem length_add_load_le {mesh later : Mesh} {receptions : List Reception}
    (ran : mesh.hearAll? receptions = some later) :
    receptions.length + Flood.load mesh.medium.stations.length later.medium ≤
      Flood.load mesh.medium.stations.length mesh.medium := by
  induction receptions generalizing mesh with
  | nil =>
      cases ran
      simp
  | cons reception rest ih =>
      unfold hearAll? at ran
      cases heard : mesh.hear? reception with
      | none =>
          rw [heard] at ran
          cases ran
      | some pair =>
          obtain ⟨event, middle⟩ := pair
          rw [heard] at ran
          have onward : rest.length + _ ≤ Flood.load _ middle.medium := ih ran
          have used := load_hear? heard
          rw [length_hear? heard] at onward
          rw [List.length_cons]
          omega

/-- Whatever waits, whatever the memories hold, and whatever probes and radios
answer: every sequence of receptions ends, and its length is bounded by the
number of stations and the frames that wait at its start. -/
theorem floods_end (mesh : Mesh) :
    (∀ receptions later, mesh.hearAll? receptions = some later →
      receptions.length ≤
        Flood.bound mesh.medium.stations.length mesh.medium.waiting) ∧
    ∀ schedule : Nat → Reception,
      ∃ count, mesh.hearAll? ((List.range count).map schedule) = none := by
  have bounded : ∀ receptions later, mesh.hearAll? receptions = some later →
      receptions.length ≤ Flood.bound mesh.medium.stations.length mesh.medium.waiting := by
    intro receptions later ran
    have used := length_add_load_le ran
    unfold Flood.load at used
    omega
  refine ⟨bounded, ?_⟩
  intro schedule
  refine ⟨Flood.bound mesh.medium.stations.length mesh.medium.waiting + 1, ?_⟩
  cases ran : mesh.hearAll? ((List.range
      (Flood.bound mesh.medium.stations.length mesh.medium.waiting + 1)).map schedule) with
  | none => rfl
  | some later =>
      have tooLong := bounded _ later ran
      rw [List.length_map, List.length_range] at tooLong
      omega

/-- Two nodes without memory that hear each other, and a request for neither. -/
def echoPair : Mesh :=
  let node (digit : Nat) : Node :=
    { address := .numbered digit
      duty := .controller
      ring := Ring.empty 0
      queue := Queue.new 1 }
  let request : Packet :=
    { dest := .numbered 9
      src := .numbered 8
      content := .request 2
      hops := 2
      fingerprint := Fingerprint.blank }
  { medium := ((Medium.ofCount 2).link 0 1).inject 0 request.frame
    nodes := [node 1, node 2] }

def echoes : List Reception :=
  [ { index := 0, verdict := none, now := 0 }, { index := 1, verdict := none, now := 0 },
    { index := 0, verdict := none, now := 0 } ]

theorem floods_end_echoPair :
    ∃ later, echoPair.hearAll? echoes = some later ∧
      echoes.length ≤ Flood.bound echoPair.medium.stations.length echoPair.medium.waiting ∧
      Flood.bound echoPair.medium.stations.length echoPair.medium.waiting = 4 := by
  have ran : (echoPair.hearAll? echoes).isSome = true := by decide +kernel
  obtain ⟨later, laterEq⟩ := Option.isSome_iff_exists.mp ran
  exact ⟨later, laterEq, (floods_end echoPair).1 echoes later laterEq, by decide +kernel⟩

end Mesh

end FloodMesh
