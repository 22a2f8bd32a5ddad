/-
Every station sends and dispatches a packet at most once.

Where no memory is ever too small and pollers announce their requests before
their relays go on, a station knows every fingerprint that it has sent or
dispatched: it remembers it, has it announced, or is about to announce it. What
a station knows it neither sends on nor dispatches again.
-/

import FloodMesh.Proofs.Provenance

namespace FloodMesh

open Traffic

/-! ### What happened to which fingerprint -/

def Packet.fingerprintOf? (frame : Bytes) : Option Fingerprint :=
  match Packet.decode frame with
  | .ok packet => some packet.fingerprint
  | .error _ => none

@[simp] theorem Packet.fingerprintOf?_frame (packet : Packet) :
    Packet.fingerprintOf? packet.frame = some packet.fingerprint := by
  unfold Packet.fingerprintOf?
  rw [Packet.decode_frame]

def Outcome.isQueued : Outcome → Bool
  | .delivered (.queued _ _) => true
  | _ => false

/-- The frames whose handling had such an outcome, and what came of them. -/
def takenWith (chosen : Outcome → Bool) (past : List Occurrence) : List (Bytes × Mesh.Event) :=
  (past.filterMap Occurrence.heard?).filter fun taken => chosen taken.2.outcome

/-- The fingerprints of everything put on the air for the first time. -/
def issued (past : List Occurrence) : List Fingerprint :=
  (originated past).map fun origin => origin.packet.fingerprint

def Sender.pending? (sender : Sender) : Option Fingerprint :=
  match sender.sending with
  | .accepted request => some request.fingerprint
  | .numbered request => some request.fingerprint
  | _ => none

/-- The moves of a mesh in which requests are announced before the relay of
their station goes on, and memories keep at least `limit` slots. -/
def Traffic.Prompt (limit : Nat) (traffic : Traffic) : Move → Prop
  | .begins _ errand => errand.announces = true
  | .proceeds _ _ => True
  | .hears reception =>
      ∀ sender ∈ traffic.senders, sender.station = reception.index → sender.pending? = none
  | .tends station node =>
      ∀ before, traffic.mesh.nodes[station]? = some before →
        node.address = before.address ∧ node.announced = before.announced ∧
          ∃ capacity, limit ≤ capacity ∧ node.ring = before.ring.resize capacity

structure Traffic.Blank (limit : Nat) (traffic : Traffic) : Prop where
  quiet : traffic.Quiet
  addresses : (traffic.mesh.nodes.map Node.address).Nodup
  forgetful : ∀ node ∈ traffic.mesh.nodes, node.ring.entries = [] ∧ node.announced = []
  roomy : ∀ node ∈ traffic.mesh.nodes, limit ≤ node.ring.capacity
  idle : traffic.senders = []

/-! ### Memories without evictions -/

structure Ring.Fits (ring : Ring) (all : List Fingerprint) : Prop where
  distinct : ring.entries.Nodup
  within : ∀ item ∈ ring.entries, item ∈ all
  roomy : all.length ≤ ring.capacity

namespace Ring.Fits

variable {ring : Ring} {all : List Fingerprint} {fingerprint : Fingerprint}

theorem insert (fits : ring.Fits all) (member : fingerprint ∈ all) :
    (ring.insert fingerprint).Fits all ∧
      ∀ item, item ∈ (ring.insert fingerprint).entries ↔
        item ∈ ring.entries ∨ item = fingerprint := by
  have distinct := Ring.nodup_insert fits.distinct fingerprint
  have within : ∀ item ∈ (ring.insert fingerprint).entries, item ∈ all := by
    intro item present
    rcases Ring.mem_of_mem_insert present with known | new
    · exact fits.within item known
    · rw [new]
      exact member
  refine ⟨⟨distinct, within, by rw [Ring.capacity_insert]; exact fits.roomy⟩, ?_⟩
  intro item
  by_cases known : fingerprint ∈ ring.entries
  · rw [Ring.insert_of_mem known]
    constructor
    · exact .inl
    · rintro (present | rfl)
      · exact present
      · exact known
  · have longer : (ring.entries ++ [fingerprint]).Nodup := by
      rw [← List.concat_eq_append]
      exact .concat known fits.distinct
    have short : (ring.entries ++ [fingerprint]).length ≤ ring.capacity := by
      apply Nat.le_trans _ fits.roomy
      apply (List.subperm_of_subset longer _).length_le
      intro other present
      rcases List.mem_append.mp present with old | last
      · exact fits.within other old
      · rw [List.mem_singleton.mp last]
        exact member
    rw [Ring.entries_insert_of_new known, newest_of_length_le short]
    simp

theorem foldl (fits : ring.Fits all) {fingerprints : List Fingerprint}
    (members : ∀ item ∈ fingerprints, item ∈ all) :
    (fingerprints.foldl Ring.insert ring).Fits all ∧
      ∀ item, item ∈ (fingerprints.foldl Ring.insert ring).entries ↔
        item ∈ ring.entries ∨ item ∈ fingerprints := by
  induction fingerprints generalizing ring with
  | nil => exact ⟨fits, by simp⟩
  | cons first rest ih =>
      obtain ⟨inserted, insertedIff⟩ := fits.insert (members first List.mem_cons_self)
      obtain ⟨complete, completeIff⟩ := ih inserted fun item present =>
        members item (List.mem_cons_of_mem _ present)
      refine ⟨complete, ?_⟩
      intro item
      rw [List.foldl_cons, completeIff, insertedIff, List.mem_cons, or_assoc]

private theorem mono (fits : ring.Fits all) {more : List Fingerprint} (kept : all ⊆ more)
    (roomy : more.length ≤ ring.capacity) : ring.Fits more :=
  ⟨fits.distinct, fun item present => kept (fits.within item present), roomy⟩

/-- A resize to enough slots loses nothing. -/
theorem entries_resize (fits : ring.Fits all) {capacity : Nat}
    (few : ring.entries.length ≤ capacity) :
    (ring.resize capacity).entries = ring.entries := by
  rw [Ring.entries_resize fits.distinct, newest_of_length_le few]

end Ring.Fits

/-! ### What a station knows -/

def Traffic.Knows (traffic : Traffic) (index : Nat) (fingerprint : Fingerprint) : Prop :=
  (∃ node, traffic.mesh.nodes[index]? = some node ∧
      (fingerprint ∈ node.ring.entries ∨ fingerprint ∈ node.announced)) ∨
    ∃ sender ∈ traffic.senders, sender.station = index ∧ sender.pending? = some fingerprint

structure Orderly (limit : Nat) (past : List Occurrence) (traffic : Traffic) : Prop where
  addresses : (traffic.mesh.nodes.map Node.address).Nodup
  announces : ∀ sender ∈ traffic.senders, sender.errand.announces = true
  fits : ∀ node ∈ traffic.mesh.nodes,
    node.ring.Fits (issued past) ∧ limit ≤ node.ring.capacity
  knownIssued : ∀ index fingerprint, traffic.Knows index fingerprint → fingerprint ∈ issued past
  sent : ∀ index, ∀ frame ∈ traffic.mesh.medium.transmissions index,
    ∃ fingerprint, Packet.fingerprintOf? frame = some fingerprint ∧
      traffic.Knows index fingerprint
  sentOnce : ∀ index,
    ((traffic.mesh.medium.transmissions index).map Packet.fingerprintOf?).Nodup
  dispatched : ∀ taken ∈ takenWith Outcome.isDispatch past, ∃ packet node,
    Packet.decode taken.1 = .ok packet ∧
      traffic.mesh.nodes[taken.2.index]? = some node ∧ packet.dest = node.address ∧
      traffic.Knows taken.2.index packet.fingerprint
  dispatchedOnce : ((takenWith Outcome.isDispatch past).map
    fun taken => Packet.fingerprintOf? taken.1).Nodup

private theorem issued_append (past more : List Occurrence) :
    issued (past ++ more) = issued past ++ issued more := by
  unfold issued
  rw [originated_append, List.map_append]

private theorem issued_subset (past more : List Occurrence) :
    issued past ⊆ issued (past ++ more) := by
  rw [issued_append]
  exact List.subset_append_left _ _

private theorem takenWith_append (chosen : Outcome → Bool) (past more : List Occurrence) :
    takenWith chosen (past ++ more) = takenWith chosen past ++ takenWith chosen more := by
  unfold takenWith
  rw [List.filterMap_append, List.filter_append]

private theorem orderly_start {limit : Nat} {traffic : Traffic} (blank : traffic.Blank limit) :
    Orderly limit [] traffic := by
  have nothing : ∀ index fingerprint, ¬ traffic.Knows index fingerprint := by
    intro index fingerprint knows
    rcases knows with ⟨node, found, known⟩ | ⟨sender, present, _⟩
    · obtain ⟨noEntries, noneAnnounced⟩ :=
        blank.forgetful node (List.mem_of_getElem? found)
      rw [noEntries, noneAnnounced] at known
      simp at known
    · rw [blank.idle] at present
      cases present
  constructor
  · exact blank.addresses
  · intro sender present
    rw [blank.idle] at present
    cases present
  · intro node present
    obtain ⟨noEntries, _⟩ := blank.forgetful node present
    refine ⟨⟨?_, ?_, Nat.zero_le _⟩, blank.roomy node present⟩
    · rw [noEntries]
      exact List.nodup_nil
    · intro item impossible
      rw [noEntries] at impossible
      cases impossible
  · intro index fingerprint knows
    exact absurd knows (nothing index fingerprint)
  · intro index frame present
    rw [blank.quiet.sent index] at present
    cases present
  · intro index
    rw [blank.quiet.sent index]
    exact List.nodup_nil
  · intro taken impossible
    cases impossible
  · exact List.nodup_nil

/-! ### Senders -/

/-- Of the senders only the one whose turn it was is not as before. -/
theorem mem_advanced {senders : List Sender} {which : Nat} {sender other : Sender}
    {next : Option Sending} (present : other ∈ advanced senders which sender next) :
    other ∈ senders ∨ ∃ sending, next = some sending ∧ other = { sender with sending } := by
  cases next with
  | none => exact .inl (List.mem_of_mem_eraseIdx present)
  | some sending =>
      rcases List.mem_or_eq_of_mem_set present with old | new
      · exact .inl old
      · exact .inr ⟨sending, rfl, new⟩

private theorem mem_advanced_of_mem {senders : List Sender} {which : Nat} {sender other : Sender}
    (at_which : senders[which]? = some sender) (present : other ∈ senders)
    (next : Option Sending) :
    other = sender ∨ other ∈ advanced senders which sender next := by
  obtain ⟨position, found⟩ := List.mem_iff_getElem?.mp present
  by_cases same : position = which
  · rw [same, at_which] at found
    exact .inl (Option.some.inj found).symm
  · right
    cases next with
    | none =>
        rw [advanced, List.mem_eraseIdx_iff_getElem?]
        exact ⟨position, same, found⟩
    | some sending =>
        have kept : (advanced senders which sender (some sending))[position]? = some other := by
          rw [advanced, List.getElem?_set_ne (fun equal => same equal.symm)]
          exact found
        exact List.mem_of_getElem? kept

/-! ### One step -/

/-- A station sends one frame at most, under a fingerprint it did not know. -/
def SendsNew (traffic later : Traffic) (index : Nat) (frames : List Bytes) : Prop :=
  frames = [] ∨ ∃ frame fingerprint, frames = [frame] ∧
    Packet.fingerprintOf? frame = some fingerprint ∧ ¬ traffic.Knows index fingerprint ∧
      later.Knows index fingerprint

/-- A station dispatches one packet at most, addressed to it, under a
fingerprint it did not know. -/
def DispatchesNew (traffic later : Traffic) (taken : List (Bytes × Mesh.Event)) : Prop :=
  taken = [] ∨ ∃ frame event packet node, taken = [(frame, event)] ∧
    Packet.decode frame = .ok packet ∧ traffic.mesh.nodes[event.index]? = some node ∧
      packet.dest = node.address ∧ ¬ traffic.Knows event.index packet.fingerprint ∧
        later.Knows event.index packet.fingerprint

def Consistent (taken : List (Bytes × Mesh.Event)) : Prop :=
  ∀ first ∈ taken, ∀ second ∈ taken, ∀ packet other,
    Packet.decode first.1 = .ok packet → Packet.decode second.1 = .ok other →
      packet.fingerprint = other.fingerprint → packet.dest = other.dest

theorem getElem?_of_addresses {nodes later : List Node}
    (same : later.map Node.address = nodes.map Node.address) {index : Nat} {node : Node}
    (found : nodes[index]? = some node) :
    ∃ after, later[index]? = some after ∧ after.address = node.address := by
  have mapped : (later.map Node.address)[index]? = some node.address := by
    rw [same, List.getElem?_map, found]
    rfl
  rw [List.getElem?_map] at mapped
  exact Option.map_eq_some_iff.mp mapped

/-- Nodes of one address are one node. -/
theorem index_eq_of_address {nodes : List Node} (distinct : (nodes.map Node.address).Nodup)
    {first second : Nat} {node other : Node} (found : nodes[first]? = some node)
    (otherFound : nodes[second]? = some other) (same : node.address = other.address) :
    first = second := by
  have firstAt : (nodes.map Node.address)[first]? = some node.address := by
    rw [List.getElem?_map, found]
    rfl
  have secondAt : (nodes.map Node.address)[second]? = some node.address := by
    rw [List.getElem?_map, otherFound, same]
    rfl
  have within := (List.getElem?_eq_some_iff.mp firstAt).1
  exact (List.getElem?_inj within distinct).mp (firstAt.trans secondAt.symm)

section Step

variable {limit : Nat} {past more : List Occurrence} {traffic later : Traffic}

private theorem Orderly.sentOnce_extend (orderly : Orderly limit past traffic) {index : Nat}
    {frames : List Bytes} (new : SendsNew traffic later index frames) :
    ((traffic.mesh.medium.transmissions index ++ frames).map Packet.fingerprintOf?).Nodup := by
  rcases new with none | ⟨frame, fingerprint, single, bears, unknown, _⟩
  · rw [none, List.append_nil]
    exact orderly.sentOnce index
  · rw [single, List.map_append, List.map_singleton, ← List.concat_eq_append]
    apply List.Nodup.concat _ (orderly.sentOnce index)
    intro again
    obtain ⟨old, oldSent, same⟩ := List.mem_map.mp again
    obtain ⟨known, knownBears, knows⟩ := orderly.sent index old oldSent
    rw [knownBears, bears] at same
    rw [Option.some.inj same] at knows
    exact unknown knows

private theorem Orderly.dispatchedOnce_extend (orderly : Orderly limit past traffic)
    {taken : List (Bytes × Mesh.Event)} (new : DispatchesNew traffic later taken)
    (consistent : Consistent (takenWith Outcome.isDispatch past ++ taken)) :
    ((takenWith Outcome.isDispatch past ++ taken).map
      fun taken => Packet.fingerprintOf? taken.1).Nodup := by
  rcases new with none | ⟨frame, event, packet, node, single, reads, found, own, unknown, _⟩
  · rw [none, List.append_nil]
    exact orderly.dispatchedOnce
  · rw [single, List.map_append, List.map_singleton, ← List.concat_eq_append]
    apply List.Nodup.concat _ orderly.dispatchedOnce
    intro again
    obtain ⟨old, oldTaken, same⟩ := List.mem_map.mp again
    obtain ⟨oldPacket, oldNode, oldReads, oldFound, oldOwn, knows⟩ :=
      orderly.dispatched old oldTaken
    simp only [Packet.fingerprintOf?, oldReads, reads, Option.some.injEq] at same
    -- Equal fingerprints lead to equal destinations, and so to the same node.
    have destEq : oldPacket.dest = packet.dest :=
      consistent old (List.mem_append_left _ oldTaken) (frame, event) (by simp [single])
        oldPacket packet oldReads reads same
    have sameIndex := index_eq_of_address orderly.addresses oldFound found
      (by rw [← oldOwn, destEq, own])
    rw [sameIndex, same] at knows
    exact unknown knows

/-- If a step forgets nothing and is new in what it sends and dispatches, order
goes on. -/
theorem Orderly.extend (orderly : Orderly limit past traffic)
    (addresses : later.mesh.nodes.map Node.address = traffic.mesh.nodes.map Node.address)
    (announces : ∀ sender ∈ later.senders, sender.errand.announces = true)
    (fits : ∀ node ∈ later.mesh.nodes,
      node.ring.Fits (issued (past ++ more)) ∧ limit ≤ node.ring.capacity)
    (knows : ∀ index fingerprint, traffic.Knows index fingerprint →
      later.Knows index fingerprint)
    (learnt : ∀ index fingerprint, later.Knows index fingerprint →
      fingerprint ∈ issued (past ++ more))
    {frames : Nat → List Bytes}
    (transmissions : ∀ index, later.mesh.medium.transmissions index =
      traffic.mesh.medium.transmissions index ++ frames index)
    (sends : ∀ index, SendsNew traffic later index (frames index))
    (dispatches : DispatchesNew traffic later (takenWith Outcome.isDispatch more))
    (consistent : Consistent (takenWith Outcome.isDispatch (past ++ more))) :
    Orderly limit (past ++ more) later := by
  rw [takenWith_append] at consistent
  constructor
  · rw [addresses]
    exact orderly.addresses
  · exact announces
  · exact fits
  · exact learnt
  · intro index frame present
    rw [transmissions index] at present
    rcases List.mem_append.mp present with earlier | last
    · obtain ⟨fingerprint, bears, known⟩ := orderly.sent index frame earlier
      exact ⟨fingerprint, bears, knows index fingerprint known⟩
    · rcases sends index with none | ⟨new, fingerprint, single, bears, _, known⟩
      · rw [none] at last
        cases last
      · rw [single, List.mem_singleton] at last
        rw [last]
        exact ⟨fingerprint, bears, known⟩
  · intro index
    rw [transmissions index]
    exact orderly.sentOnce_extend (sends index)
  · intro taken present
    rw [takenWith_append] at present
    rcases List.mem_append.mp present with earlier | last
    · obtain ⟨packet, node, reads, found, own, known⟩ := orderly.dispatched taken earlier
      obtain ⟨after, afterFound, sameAddress⟩ := getElem?_of_addresses addresses found
      exact ⟨packet, after, reads, afterFound, own.trans sameAddress.symm,
        knows _ _ known⟩
    · rcases dispatches with none | ⟨frame, event, packet, node, single, reads, rest⟩
      · rw [none] at last
        cases last
      · obtain ⟨found, own, _, known⟩ := rest
        rw [single, List.mem_singleton] at last
        obtain ⟨after, afterFound, sameAddress⟩ := getElem?_of_addresses addresses found
        rw [last]
        exact ⟨packet, after, reads, afterFound, own.trans sameAddress.symm, known⟩
  · rw [takenWith_append]
    exact orderly.dispatchedOnce_extend dispatches consistent

end Step

/-! ### The work on a frame -/

private theorem consistent_of_accounts {start : Medium} {past : List Occurrence} {traffic : Traffic}
    (accounts : Accounts start past traffic) (distinct : (issued past).Nodup)
    (chosen : Outcome → Bool) : Consistent (takenWith chosen past) := by
  have copied : ∀ taken ∈ takenWith chosen past, ∀ packet,
      Packet.decode taken.1 = .ok packet → ∃ origin ∈ originated past,
        packet.dest = origin.packet.dest ∧ packet.fingerprint = origin.packet.fingerprint := by
    intro taken present packet reads
    have heard := (List.mem_filter.mp present).1
    obtain ⟨copy, _, bears, _⟩ := exists_of_forall₂ accounts.taken heard
    rw [bears.frame, Packet.decode_frame] at reads
    cases reads
    exact ⟨copy.origin, bears.origin, rfl, rfl⟩
  intro first firstTaken second secondTaken packet other reads otherReads same
  obtain ⟨origin, member, destEq, fingerprintEq⟩ := copied first firstTaken packet reads
  obtain ⟨otherOrigin, otherMember, otherDestEq, otherFingerprintEq⟩ :=
    copied second secondTaken other otherReads
  have sameOrigin : origin = otherOrigin := by
    apply List.inj_on_of_nodup_map distinct member otherMember
    rw [← fingerprintEq, ← otherFingerprintEq, same]
  rw [destEq, otherDestEq, sameOrigin]

structure Fresh (node : Node) (copy : Copy) (now : List Fingerprint) (outcome : Outcome)
    (frames : List Bytes) (ring : Ring) : Prop where
  fits : ring.Fits now
  keeps : ∀ item ∈ node.absorbedRing.entries, item ∈ ring.entries
  sends : frames = [] ∨ ∃ frame fingerprint, frames = [frame] ∧
    Packet.fingerprintOf? frame = some fingerprint ∧
      fingerprint ∉ node.absorbedRing.entries ∧ fingerprint ∈ ring.entries
  dispatches : outcome.isDispatch = true →
    copy.packet.dest = node.address ∧
      copy.packet.fingerprint ∉ node.absorbedRing.entries ∧
        copy.packet.fingerprint ∈ ring.entries

private theorem Course.fresh {node : Node} {surroundings : Surroundings} {copy : Copy}
    {outcome : Outcome} {done effects : List Effect} {ring : Ring}
    (course : Course node surroundings copy.packet.frame outcome done ring)
    (sentEq : sentFrames effects = sentFrames done) {before now : List Fingerprint}
    {index : Nat} (member : copy.packet.fingerprint ∈ before)
    (fits : node.absorbedRing.Fits before)
    (nowEq : now = before ++ (Mesh.Event.origins { index, outcome, effects }).map
      fun origin => origin.packet.fingerprint)
    (distinct : now.Nodup) (roomy : now.length ≤ node.ring.capacity) :
    Fresh node copy now outcome (sentFrames effects) ring := by
  obtain ⟨inserted, insertedIff⟩ := fits.insert member
  have kept : before ⊆ now := by
    rw [nowEq]
    exact List.subset_append_left _ _
  have absorbedCapacity := node.capacity_absorbedRing
  have wholeAbsorbed : node.absorbedRing.Fits now :=
    fits.mono kept (by rw [absorbedCapacity]; exact roomy)
  have wholeInserted : (node.absorbedRing.insert copy.packet.fingerprint).Fits now :=
    inserted.mono kept (by rw [Ring.capacity_insert, absorbedCapacity]; exact roomy)
  have keeps : ∀ item ∈ node.absorbedRing.entries,
      item ∈ (node.absorbedRing.insert copy.packet.fingerprint).entries :=
    fun item present => (insertedIff item).mpr (.inl present)
  have remembered := (insertedIff copy.packet.fingerprint).mpr (.inr rfl)
  have unknown {packet : Packet}
      (admitted : Node.examine node.absorbedRing copy.packet.frame = .ok packet) :
      packet = copy.packet ∧ copy.packet.fingerprint ∉ node.absorbedRing.entries := by
    obtain ⟨same, _⟩ := Copy.eq_of_admitted admitted
    have passed := (Node.examine_eq_ok_iff.mp admitted).2.2.2.2
    rw [same] at passed
    exact ⟨same, Ring.contains_eq_false_iff.mp passed⟩
  rw [sentEq]
  cases course with
  | dropped refused =>
      exact ⟨wholeAbsorbed, fun item present => present, .inl rfl,
        fun impossible => by cases impossible⟩
  | forwarded admitted foreign accepted =>
      obtain ⟨rfl, new⟩ := unknown admitted
      refine ⟨wholeInserted, keeps, .inr ⟨_, _, rfl, ?_, new, remembered⟩,
        fun impossible => by cases impossible⟩
      exact Packet.fingerprintOf?_frame _
  | forwardFailed admitted foreign refused =>
      obtain ⟨rfl, new⟩ := unknown admitted
      exact ⟨wholeInserted, keeps, .inl rfl, fun impossible => by cases impossible⟩
  | queued admitted own duty content entryEq =>
      obtain ⟨rfl, new⟩ := unknown admitted
      exact ⟨wholeInserted, keeps, .inl rfl, fun _ => ⟨own, new, remembered⟩⟩
  | reported admitted own duty content =>
      obtain ⟨rfl, new⟩ := unknown admitted
      exact ⟨wholeInserted, keeps, .inl rfl, fun _ => ⟨own, new, remembered⟩⟩
  | ignored admitted own idle =>
      obtain ⟨rfl, new⟩ := unknown admitted
      exact ⟨wholeInserted, keeps, .inl rfl, fun _ => ⟨own, new, remembered⟩⟩
  | @replied packet probe admitted own duty asked accepted =>
      obtain ⟨rfl, new⟩ := unknown admitted
      have read := Origin.read?_frame index (node.reply copy.packet probe.read.1)
      have issuedNow : now = before ++ [(node.reply copy.packet probe.read.1).fingerprint] := by
        have single : sentFrames effects = [(node.reply copy.packet probe.read.1).frame] := sentEq
        rw [nowEq]
        simp only [Mesh.Event.origins, single, List.filterMap_cons, List.filterMap_nil, read,
          List.map_cons, List.map_nil]
      have replyIssued : (node.reply copy.packet probe.read.1).fingerprint ∈ now := by
        rw [issuedNow]
        simp
      have replyNew : (node.reply copy.packet probe.read.1).fingerprint ∉
          node.absorbedRing.entries := by
        intro known
        rw [issuedNow, List.nodup_append] at distinct
        exact distinct.2.2 _ (fits.within _ known) _ (by simp) rfl
      obtain ⟨complete, completeIff⟩ := wholeInserted.insert replyIssued
      have allKept : ∀ item ∈ (node.absorbedRing.insert copy.packet.fingerprint).entries,
          item ∈ ((node.absorbedRing.insert copy.packet.fingerprint).insert
            (node.reply copy.packet probe.read.1).fingerprint).entries :=
        fun item present => (completeIff item).mpr (.inl present)
      refine ⟨complete, fun item present => allKept item (keeps item present),
        .inr ⟨_, _, rfl, Packet.fingerprintOf?_frame _, replyNew, ?_⟩,
        fun _ => ⟨own, new, allKept _ remembered⟩⟩
      exact (completeIff _).mpr (.inr rfl)
  | replyFailed admitted own duty asked refused =>
      obtain ⟨rfl, new⟩ := unknown admitted
      exact ⟨wholeInserted, keeps, .inl rfl, fun _ => ⟨own, new, remembered⟩⟩

/-! ### Every move keeps order -/

def Traffic.worked (traffic : Traffic) (medium : Medium) (index : Nat) (after : Node)
    (senders : List Sender) : Traffic :=
  { mesh := { medium, nodes := traffic.mesh.nodes.set index after }, senders }

section Moves

variable {limit : Nat} {past more : List Occurrence} {traffic : Traffic} {medium : Medium}
  {senders : List Sender} {index : Nat} {node after : Node}

theorem address_set {nodes : List Node} (found : nodes[index]? = some node)
    (same : after.address = node.address) :
    (nodes.set index after).map Node.address = nodes.map Node.address := by
  have within := (List.getElem?_eq_some_iff.mp found).1
  apply List.ext_getElem?
  intro position
  rw [List.getElem?_map, List.getElem?_map]
  by_cases here : index = position
  · subst here
    rw [List.getElem?_set_self within, found, Option.map_some, Option.map_some, same]
  · rw [List.getElem?_set_ne here]

private theorem Orderly.fits_set (orderly : Orderly limit past traffic)
    (few : (issued (past ++ more)).length ≤ limit)
    (fits : after.ring.Fits (issued (past ++ more))) (roomy : limit ≤ after.ring.capacity) :
    ∀ other ∈ traffic.mesh.nodes.set index after,
      other.ring.Fits (issued (past ++ more)) ∧ limit ≤ other.ring.capacity := by
  intro other present
  rcases List.mem_or_eq_of_mem_set present with old | new
  · obtain ⟨before, oldRoomy⟩ := orderly.fits other old
    exact ⟨before.mono (issued_subset past more) (few.trans oldRoomy), oldRoomy⟩
  · rw [new]
    exact ⟨fits, roomy⟩

/-- A change of one node and of the senders forgets nothing if what that node
knew and what was pending is still known. -/
theorem knows_worked (found : traffic.mesh.nodes[index]? = some node)
    (kept : ∀ fingerprint,
      fingerprint ∈ node.ring.entries ∨ fingerprint ∈ node.announced →
        fingerprint ∈ after.ring.entries ∨ fingerprint ∈ after.announced)
    (pending : ∀ sender ∈ traffic.senders, ∀ fingerprint,
      sender.pending? = some fingerprint →
        (traffic.worked medium index after senders).Knows sender.station fingerprint)
    (other : Nat) (fingerprint : Fingerprint) (knows : traffic.Knows other fingerprint) :
    (traffic.worked medium index after senders).Knows other fingerprint := by
  have within := (List.getElem?_eq_some_iff.mp found).1
  rcases knows with ⟨holder, holderFound, known⟩ | ⟨sender, present, stationEq, waits⟩
  · left
    by_cases same : index = other
    · subst same
      rw [found] at holderFound
      cases holderFound
      exact ⟨after, List.getElem?_set_self within, kept fingerprint known⟩
    · refine ⟨holder, ?_, known⟩
      rw [← holderFound]
      exact List.getElem?_set_ne same
  · rw [← stationEq]
    exact pending sender present fingerprint waits

private theorem learnt_worked (found : traffic.mesh.nodes[index]? = some node) {other : Nat}
    {fingerprint : Fingerprint}
    (knows : (traffic.worked medium index after senders).Knows other fingerprint) :
    traffic.Knows other fingerprint ∨
      (other = index ∧
        (fingerprint ∈ after.ring.entries ∨ fingerprint ∈ after.announced)) ∨
      ∃ sender ∈ senders, sender.station = other ∧ sender.pending? = some fingerprint := by
  have within := (List.getElem?_eq_some_iff.mp found).1
  rcases knows with ⟨holder, holderFound, known⟩ | pending
  · by_cases same : index = other
    · subst same
      have placed : (traffic.worked medium index after senders).mesh.nodes[index]? =
          some after := List.getElem?_set_self within
      rw [placed] at holderFound
      cases holderFound
      exact .inr (.inl ⟨rfl, known⟩)
    · left
      left
      refine ⟨holder, ?_, known⟩
      rw [← holderFound]
      exact (List.getElem?_set_ne same).symm
  · exact .inr (.inr pending)

/-- Once the announced are taken in, a settled station knows what its ring has. -/
theorem Orderly.absorbed (orderly : Orderly limit past traffic)
    (found : traffic.mesh.nodes[index]? = some node)
    (settled : ∀ sender ∈ traffic.senders, sender.station = index → sender.pending? = none) :
    node.absorbedRing.Fits (issued past) ∧ ∀ fingerprint,
      traffic.Knows index fingerprint ↔ fingerprint ∈ node.absorbedRing.entries := by
  obtain ⟨nodeFits, _⟩ := orderly.fits node (List.mem_of_getElem? found)
  have announcedIssued : ∀ item ∈ node.announced, item ∈ issued past := fun item present =>
    orderly.knownIssued index item (.inl ⟨node, found, .inr present⟩)
  obtain ⟨absorbedFits, absorbedIff⟩ := nodeFits.foldl announcedIssued
  refine ⟨absorbedFits, ?_⟩
  intro fingerprint
  constructor
  · rintro (⟨holder, holderFound, known⟩ | ⟨sender, present, stationEq, waiting⟩)
    · rw [found] at holderFound
      cases holderFound
      exact (absorbedIff fingerprint).mpr known
    · rw [settled sender present stationEq] at waiting
      cases waiting
  · intro known
    exact .inl ⟨node, found, (absorbedIff fingerprint).mp known⟩

end Moves

section Hearing

variable {limit : Nat} {past : List Occurrence} {traffic : Traffic} {start medium : Medium}
  {reception : Mesh.Reception} {node : Node} {first : Bytes} {rest : List Bytes}

/-- A frame that waits is a copy, and the work on it is fresh. -/
theorem Orderly.fresh (orderly : Orderly limit past traffic)
    (accounts : Accounts start past traffic)
    (found : traffic.mesh.nodes[reception.index]? = some node)
    (absorbedFits : node.absorbedRing.Fits (issued past))
    (waits : traffic.mesh.medium.waitingAt reception.index = first :: rest)
    (attached : reception.index < traffic.mesh.medium.stations.length)
    (distinct : (issued (past ++ [.heard first (reception.event node first)])).Nodup)
    (few : (issued (past ++ [.heard first (reception.event node first)])).length ≤ limit) :
    ∃ copy : Copy, first = copy.packet.frame ∧
      Fresh node copy (issued (past ++ [.heard first (reception.event node first)]))
        (reception.reaction node first).outcome
        (sentFrames (reception.reaction node first).effects)
        (reception.reaction node first).node.ring := by
  obtain ⟨copy, _, bears, _, whole⟩ :=
    accounts.oldest waits (by rwa [← accounts.length])
  obtain ⟨_, nodeRoomy⟩ := orderly.fits node (List.mem_of_getElem? found)
  have copyIssued : copy.packet.fingerprint ∈ issued past :=
    List.mem_map.mpr ⟨copy.origin, bears.origin, rfl⟩
  have reactionEq : node.process reception.surroundings copy.packet.frame =
      reception.reaction node first := by
    rw [← whole]
    rfl
  have course := course_process node reception.surroundings copy.packet.frame
  rw [reactionEq] at course
  have nowEq : issued (past ++ [.heard first (reception.event node first)]) =
      issued past ++ (reception.event node first).origins.map
        fun origin => origin.packet.fingerprint := by
    rw [issued_append]
    simp [issued, originated, Occurrence.origins]
  exact ⟨copy, bears.frame, course.fresh (sentFrames_deeds _).symm copyIssued absorbedFits
    nowEq distinct (few.trans nodeRoomy)⟩

private theorem Orderly.heard (orderly : Orderly limit past traffic)
    (accounts : Accounts start past traffic)
    (settled : ∀ sender ∈ traffic.senders,
      sender.station = reception.index → sender.pending? = none)
    (found : traffic.mesh.nodes[reception.index]? = some node)
    (waits : traffic.mesh.medium.waitingAt reception.index = first :: rest)
    (attached : reception.index < traffic.mesh.medium.stations.length)
    (moved : Medium.Moved traffic.mesh.medium medium (some reception.index) reception.index
      (sentFrames (reception.reaction node first).effects))
    (distinct : (issued (past ++ [.heard first (reception.event node first)])).Nodup)
    (few : (issued (past ++ [.heard first (reception.event node first)])).length ≤ limit)
    (consistent : Consistent (takenWith Outcome.isDispatch
      (past ++ [.heard first (reception.event node first)]))) :
    Orderly limit (past ++ [.heard first (reception.event node first)])
      (traffic.worked medium reception.index (reception.reaction node first).node
        traffic.senders) := by
  obtain ⟨_, nodeRoomy⟩ := orderly.fits node (List.mem_of_getElem? found)
  obtain ⟨absorbedFits, knownHere⟩ := orderly.absorbed found settled
  obtain ⟨copy, frameEq, fresh⟩ :=
    orderly.fresh accounts found absorbedFits waits attached distinct few
  have kept := node.process_keeps reception.surroundings (first.take Inbox.bufferLength)
  have sameCapacity :=
    (course_process node reception.surroundings (first.take Inbox.bufferLength)).capacity
  have within := (List.getElem?_eq_some_iff.mp found).1
  have knownAfter : ∀ fingerprint,
      fingerprint ∈ (reception.reaction node first).node.ring.entries →
        (traffic.worked medium reception.index (reception.reaction node first).node
          traffic.senders).Knows reception.index fingerprint :=
    fun fingerprint known => .inl ⟨_, List.getElem?_set_self within, .inl known⟩
  refine orderly.extend ?_ ?_ ?_ ?_ ?_ moved.transmissions ?_ ?_ consistent
  · exact address_set found kept.1
  · exact orderly.announces
  · exact orderly.fits_set few fresh.fits (nodeRoomy.trans sameCapacity.ge)
  · apply knows_worked found
    · intro fingerprint known
      exact .inl (fresh.keeps fingerprint
        ((knownHere fingerprint).mp (.inl ⟨node, found, known⟩)))
    · intro sender present fingerprint waiting
      exact .inr ⟨sender, present, rfl, waiting⟩
  · intro other fingerprint knows
    have older := issued_subset past [.heard first (reception.event node first)]
    rcases learnt_worked found knows with old | ⟨_, inRing | isAnnounced⟩ | pending
    · exact older (orderly.knownIssued other fingerprint old)
    · exact fresh.fits.within fingerprint inRing
    · rw [Mesh.Reception.reaction, kept.2] at isAnnounced
      cases isAnnounced
    · exact older (orderly.knownIssued other fingerprint (.inr pending))
  · intro other
    by_cases own : other = reception.index
    · subst own
      rw [if_pos rfl]
      rcases fresh.sends with silent | ⟨frame, fingerprint, single, bearsIt, unknown, known⟩
      · exact .inl silent
      · exact .inr ⟨frame, fingerprint, single, bearsIt,
          fun knows => unknown ((knownHere _).mp knows), knownAfter fingerprint known⟩
    · rw [if_neg own]
      exact .inl rfl
  · unfold takenWith
    simp only [List.filterMap_cons, List.filterMap_nil, Occurrence.heard?]
    by_cases chosen : (reception.event node first).outcome.isDispatch = true
    · obtain ⟨own, unknown, known⟩ := fresh.dispatches chosen
      refine .inr ⟨first, reception.event node first, copy.packet, node, ?_, ?_, found, own,
        fun knows => unknown ((knownHere _).mp knows), knownAfter _ known⟩
      · simp [chosen]
      · rw [frameEq, Packet.decode_frame]
    · exact .inl (by simp [chosen])

end Hearing

structure Handover (sender : Sender) (node after : Node) (next : Option Sending)
    (frames : List Bytes) : Prop where
  address : after.address = node.address
  ring : after.ring = node.ring
  /-- A request that was pending still is, or it is announced. -/
  pending : ∀ fingerprint, sender.pending? = some fingerprint →
    fingerprint ∈ after.announced ∨
      ∃ sending, next = some sending ∧
        ({ sender with sending } : Sender).pending? = some fingerprint
  keeps : ∀ fingerprint ∈ node.announced, fingerprint ∈ after.announced
  announced : ∀ fingerprint ∈ after.announced,
    fingerprint ∈ node.announced ∨ sender.pending? = some fingerprint
  /-- What is pending now was so before or has just gone out. -/
  starts : ∀ sending fingerprint, next = some sending →
    ({ sender with sending } : Sender).pending? = some fingerprint →
      sender.pending? = some fingerprint ∨
        ∃ request : Packet, frames = [request.frame] ∧ request.fingerprint = fingerprint
  airs : frames = [] ∨ ∃ request : Packet, frames = [request.frame] ∧
    next = some (.accepted request)

private theorem Traffic.Turned.handover {sender : Sender} {node after : Node} {frames : List Bytes}
    {next : Option Sending}
    (turn : Turned sender.errand node sender.sending frames after next)
    (announces : sender.errand.announces = true) : Handover sender node after next frames := by
  obtain ⟨station, errand, sending⟩ := sender
  simp only at turn announces
  cases turn with
  | composed =>
      refine ⟨rfl, rfl, ?_, fun _ present => present, fun _ present => .inl present, ?_,
        .inl rfl⟩
      · intro fingerprint impossible
        cases impossible
      · intro sending fingerprint same impossible
        cases same
        cases impossible
  | refused request =>
      refine ⟨rfl, rfl, ?_, fun _ present => present, fun _ present => .inl present, ?_,
        .inl rfl⟩
      · intro fingerprint impossible
        cases impossible
      · intro sending fingerprint impossible
        cases impossible
  | aired request =>
      refine ⟨rfl, rfl, fun _ impossible => (by cases impossible), fun _ present => present,
        fun _ present => .inl present, ?_, .inr ⟨request, rfl, rfl⟩⟩
      intro sending fingerprint same pending
      cases same
      cases pending
      exact .inr ⟨request, rfl, rfl⟩
  | numbered request =>
      refine ⟨rfl, rfl, fun _ pending => .inr ⟨_, rfl, pending⟩, fun _ present => present,
        fun _ present => .inl present, ?_, .inl rfl⟩
      intro sending fingerprint same pending
      cases same
      exact .inl pending
  | announced request told =>
      refine ⟨rfl, rfl, ?_, fun _ present => List.mem_append_left _ present, ?_,
        fun _ _ impossible => (by cases impossible), .inl rfl⟩
      · intro fingerprint pending
        cases pending
        exact .inl (List.mem_append_right _ (List.mem_singleton_self _))
      · intro fingerprint present
        rcases List.mem_append.mp present with old | last
        · exact .inl old
        · rw [List.mem_singleton.mp last]
          exact .inr rfl
  | unannounced request silent =>
      rw [announces] at silent
      cases silent

private theorem issued_requested (station : Nat) {frames : List Bytes}
    (airs : frames = [] ∨ ∃ request : Packet, frames = [request.frame]) :
    issued (frames.map (.requested station)) = frames.filterMap Packet.fingerprintOf? := by
  rcases airs with silent | ⟨request, single⟩
  · rw [silent]
    rfl
  · have read := Origin.read?_frame station request
    rw [single]
    simp [issued, originated, Occurrence.origins, read]

section Turns

variable {limit : Nat} {past : List Occurrence} {traffic : Traffic} {medium : Medium}
  {which : Nat} {sender : Sender} {node after : Node} {frames : List Bytes}
  {next : Option Sending}

private theorem knows_pending (present : traffic.senders[which]? = some sender) {sending : Sending}
    (goes : next = some sending) {fingerprint : Fingerprint}
    (pending : ({ sender with sending } : Sender).pending? = some fingerprint) :
    (traffic.worked medium sender.station after
      (advanced traffic.senders which sender next)).Knows sender.station fingerprint := by
  refine .inr ⟨{ sender with sending }, ?_, rfl, pending⟩
  rw [goes]
  exact List.mem_set (List.getElem?_eq_some_iff.mp present).1 _

/-- A turn forgets nothing. -/
theorem Handover.knows (handover : Handover sender node after next frames)
    (present : traffic.senders[which]? = some sender)
    (found : traffic.mesh.nodes[sender.station]? = some node) (index : Nat)
    (fingerprint : Fingerprint) (knows : traffic.Knows index fingerprint) :
    (traffic.worked medium sender.station after
      (advanced traffic.senders which sender next)).Knows index fingerprint := by
  have within := (List.getElem?_eq_some_iff.mp found).1
  revert knows
  apply knows_worked found
  · intro fingerprint known
    rw [handover.ring]
    rcases known with inRing | isAnnounced
    · exact .inl inRing
    · exact .inr (handover.keeps fingerprint isAnnounced)
  · intro other otherPresent fingerprint pending
    rcases mem_advanced_of_mem present otherPresent next with same | stays
    · subst same
      rcases handover.pending fingerprint pending with isAnnounced | ⟨sending, goes, pends⟩
      · exact .inl ⟨after, List.getElem?_set_self within, .inr isAnnounced⟩
      · exact knows_pending present goes pends
    · exact .inr ⟨other, stays, rfl, pending⟩

/-- After a turn a station knows what it knew, and the request that has just
gone out. -/
theorem Handover.learnt (handover : Handover sender node after next frames)
    (present : traffic.senders[which]? = some sender)
    (found : traffic.mesh.nodes[sender.station]? = some node) {index : Nat}
    {fingerprint : Fingerprint}
    (knows : (traffic.worked medium sender.station after
      (advanced traffic.senders which sender next)).Knows index fingerprint) :
    traffic.Knows index fingerprint ∨
      ∃ request : Packet, frames = [request.frame] ∧ request.fingerprint = fingerprint := by
  have senderPresent := List.mem_of_getElem? present
  rcases learnt_worked found knows with old | ⟨here, known⟩ | ⟨other, stays, there, pending⟩
  · exact .inl old
  · left
    rw [handover.ring] at known
    rw [here]
    rcases known with inRing | isAnnounced
    · exact .inl ⟨node, found, .inl inRing⟩
    · rcases handover.announced fingerprint isAnnounced with wasAnnounced | wasPending
      · exact .inl ⟨node, found, .inr wasAnnounced⟩
      · exact .inr ⟨sender, senderPresent, rfl, wasPending⟩
  · rcases mem_advanced stays with old | ⟨sending, goes, new⟩
    · exact .inl (.inr ⟨other, old, there, pending⟩)
    · rw [new] at there pending
      rcases handover.starts sending fingerprint goes pending with wasPending | started
      · exact .inl (.inr ⟨sender, senderPresent, there, wasPending⟩)
      · exact .inr started

private theorem Orderly.turned (orderly : Orderly limit past traffic)
    (present : traffic.senders[which]? = some sender)
    (found : traffic.mesh.nodes[sender.station]? = some node)
    (turn : Turned sender.errand node sender.sending frames after next)
    (moved : Medium.Moved traffic.mesh.medium medium none sender.station frames)
    (distinct : (issued (past ++ frames.map (.requested sender.station))).Nodup)
    (few : (issued (past ++ frames.map (.requested sender.station))).length ≤ limit)
    (consistent : Consistent (takenWith Outcome.isDispatch
      (past ++ frames.map (.requested sender.station)))) :
    Orderly limit (past ++ frames.map (.requested sender.station))
      (traffic.worked medium sender.station after
        (advanced traffic.senders which sender next)) := by
  have announces := orderly.announces sender (List.mem_of_getElem? present)
  have handover := turn.handover announces
  obtain ⟨nodeFits, nodeRoomy⟩ := orderly.fits node (List.mem_of_getElem? found)
  have older := issued_subset past (frames.map (.requested sender.station))
  have newlyIssued : ∀ request : Packet, frames = [request.frame] →
      issued (past ++ frames.map (.requested sender.station)) =
        issued past ++ [request.fingerprint] := by
    intro request single
    rw [issued_append, issued_requested _ (.inr ⟨request, single⟩), single]
    simp
  refine orderly.extend ?_ ?_ ?_ (handover.knows present found) ?_ moved.transmissions ?_ ?_
    consistent
  · exact address_set found handover.address
  · intro other otherPresent
    rcases mem_advanced otherPresent with old | ⟨sending, _, new⟩
    · exact orderly.announces other old
    · rw [new]
      exact announces
  · apply orderly.fits_set few
    · rw [handover.ring]
      exact nodeFits.mono older (few.trans nodeRoomy)
    · rw [handover.ring]
      exact nodeRoomy
  · intro index fingerprint knows
    rcases handover.learnt present found knows with old | ⟨request, single, same⟩
    · exact older (orderly.knownIssued index fingerprint old)
    · rw [newlyIssued request single, ← same]
      simp
  · intro index
    by_cases own : index = sender.station
    · subst own
      rw [if_pos rfl]
      rcases handover.airs with silent | ⟨request, single, goes⟩
      · exact .inl silent
      · refine .inr ⟨request.frame, request.fingerprint, single,
          Packet.fingerprintOf?_frame request, ?_, knows_pending present goes rfl⟩
        intro knows
        have old := orderly.knownIssued _ _ knows
        rw [newlyIssued request single, List.nodup_append] at distinct
        exact distinct.2.2 _ old _ (by simp) rfl
    · rw [if_neg own]
      exact .inl rfl
  · left
    unfold takenWith
    rw [List.filterMap_map]
    have none : Occurrence.heard? ∘ Occurrence.requested sender.station = fun _ => none := rfl
    rw [none]
    simp

end Turns

/-- What is not seen on the air keeps order if it forgets nothing. -/
theorem Orderly.unseen {limit : Nat} {past : List Occurrence} {traffic later : Traffic}
    (orderly : Orderly limit past traffic)
    (addresses : later.mesh.nodes.map Node.address = traffic.mesh.nodes.map Node.address)
    (announces : ∀ sender ∈ later.senders, sender.errand.announces = true)
    (fits : ∀ node ∈ later.mesh.nodes,
      node.ring.Fits (issued past) ∧ limit ≤ node.ring.capacity)
    (knows : ∀ index fingerprint,
      traffic.Knows index fingerprint ↔ later.Knows index fingerprint)
    (medium : later.mesh.medium = traffic.mesh.medium)
    (consistent : Consistent (takenWith Outcome.isDispatch past)) :
    Orderly limit (past ++ []) later := by
  have transmissions : ∀ index, later.mesh.medium.transmissions index =
      traffic.mesh.medium.transmissions index ++ [] := by
    intro index
    rw [medium, List.append_nil]
  refine orderly.extend addresses announces ?_ (fun index fingerprint => (knows _ _).mp) ?_
    transmissions (fun index => .inl rfl) (.inl rfl) ?_
  · rw [List.append_nil]
    exact fits
  · intro index fingerprint known
    rw [List.append_nil]
    exact orderly.knownIssued index fingerprint ((knows _ _).mpr known)
  · rw [List.append_nil]
    exact consistent

private theorem Orderly.began {limit : Nat} {past : List Occurrence} {traffic : Traffic}
    (orderly : Orderly limit past traffic) (station : Nat) {errand : Errand}
    (announces : errand.announces = true)
    (consistent : Consistent (takenWith Outcome.isDispatch past)) :
    Orderly limit (past ++ [])
      { traffic with senders := traffic.senders ++ [{ station, errand }] } := by
  refine orderly.unseen rfl ?_ orderly.fits ?_ rfl consistent
  · intro sender present
    rcases List.mem_append.mp present with old | new
    · exact orderly.announces sender old
    · rw [List.mem_singleton.mp new]
      exact announces
  · intro index fingerprint
    constructor
    · rintro (inNode | ⟨sender, present, pending⟩)
      · exact .inl inNode
      · exact .inr ⟨sender, List.mem_append_left _ present, pending⟩
    · rintro (inNode | ⟨sender, present, stationEq, pending⟩)
      · exact .inl inNode
      · rcases List.mem_append.mp present with old | new
        · exact .inr ⟨sender, old, stationEq, pending⟩
        · rw [List.mem_singleton.mp new] at pending
          cases pending

private theorem Orderly.tended {limit : Nat} {past : List Occurrence} {traffic : Traffic}
    (orderly : Orderly limit past traffic) {station : Nat} {after : Node}
    (prompt : traffic.Prompt limit (.tends station after))
    (few : (issued past).length ≤ limit)
    (consistent : Consistent (takenWith Outcome.isDispatch past)) :
    Orderly limit (past ++ [])
      { traffic with
        mesh := { traffic.mesh with nodes := traffic.mesh.nodes.set station after } } := by
  cases found : traffic.mesh.nodes[station]? with
  | none =>
      rw [List.set_eq_of_length_le (List.getElem?_eq_none_iff.mp found), List.append_nil]
      exact orderly
  | some node =>
      obtain ⟨sameAddress, sameAnnounced, capacity, roomy, resized⟩ := prompt node found
      obtain ⟨fits, _⟩ := orderly.fits node (List.mem_of_getElem? found)
      have short : node.ring.entries.length ≤ (issued past).length :=
        (List.subperm_of_subset fits.distinct fun item => fits.within item).length_le
      have sameEntries : after.ring.entries = node.ring.entries := by
        rw [resized]
        exact fits.entries_resize (short.trans (few.trans roomy))
      have newCapacity : after.ring.capacity = capacity := by
        rw [resized, Ring.capacity_resize]
      have within := (List.getElem?_eq_some_iff.mp found).1
      refine orderly.unseen ?_ ?_ ?_ ?_ rfl consistent
      · exact address_set found sameAddress
      · exact orderly.announces
      · intro other present
        rcases List.mem_or_eq_of_mem_set present with old | new
        · exact orderly.fits other old
        · rw [new, newCapacity]
          refine ⟨⟨?_, ?_, ?_⟩, roomy⟩
          · rw [sameEntries]
            exact fits.distinct
          · rw [sameEntries]
            exact fits.within
          · rw [newCapacity]
            exact few.trans roomy
      · intro index fingerprint
        constructor
        · apply knows_worked found
          · rw [sameEntries, sameAnnounced]
            exact fun _ known => known
          · intro sender present pending waits
            exact .inr ⟨sender, present, rfl, waits⟩
        · intro knows
          rcases learnt_worked found knows with old | ⟨same, known⟩ | pending
          · exact old
          · rw [sameEntries, sameAnnounced] at known
            rw [same]
            exact .inl ⟨node, found, known⟩
          · exact .inr pending

private theorem Orderly.advance {limit : Nat} {start : Medium} {past more : List Occurrence}
    {traffic later : Traffic} {move : Move} (orderly : Orderly limit past traffic)
    (accounts : Accounts start past traffic) (prompt : traffic.Prompt limit move)
    (advance : Advance traffic move more later) (distinct : (issued (past ++ more)).Nodup)
    (few : (issued (past ++ more)).length ≤ limit) : Orderly limit (past ++ more) later := by
  have consistent := consistent_of_accounts (accounts.advance advance) distinct
    Outcome.isDispatch
  cases advance with
  | began station errand =>
      rw [List.append_nil] at consistent
      exact orderly.began station prompt consistent
  | turned present found turn possible moved =>
      exact orderly.turned present found turn moved distinct few consistent
  | heard found waits attached moved =>
      exact orderly.heard accounts prompt found waits attached moved distinct few consistent
  | tended station node =>
      rw [List.append_nil] at consistent few
      exact orderly.tended prompt few consistent

/-- A whole run keeps order, as long as fingerprints are issued once and no more
than there are slots. -/
theorem Traffic.Run.orderly {limit : Nat} {start later : Traffic} {past : List Occurrence}
    (run : Run (Prompt limit) start past later) (blank : start.Blank limit)
    (distinct : (issued past).Nodup) (few : (issued past).length ≤ limit) :
    Orderly limit past later := by
  induction run with
  | start => exact orderly_start blank
  | @step past more traffic later move run permitted stepped ih =>
      have accounts := run.accounts blank.quiet
      have earlierDistinct := distinct
      rw [issued_append] at earlierDistinct
      have shorter : (issued past).length ≤ limit := by
        rw [issued_append, List.length_append] at few
        omega
      have orderly := ih (List.nodup_append.mp earlierDistinct).1 shorter
      exact orderly.advance accounts permitted (advance_of_step accounts.unlimited stepped)
        distinct few

/-- Replies and queued readings are dispatches. -/
theorem takenWith_sublist {chosen wider : Outcome → Bool}
    (narrower : ∀ outcome, chosen outcome = true → wider outcome = true)
    (past : List Occurrence) : (takenWith chosen past).Sublist (takenWith wider past) := by
  unfold takenWith
  exact List.monotone_filter_right _ fun taken => narrower taken.2.outcome

/-- Each station sends one frame at most for a fingerprint, and a packet is
dispatched at one station at most, and there once. So it is answered once and
queued once at most. -/
theorem Traffic.Run.at_most_once {limit : Nat} {start later : Traffic}
    {past : List Occurrence} (run : Run (Prompt limit) start past later)
    (blank : start.Blank limit) (distinct : (issued past).Nodup)
    (few : (issued past).length ≤ limit) :
    (∀ index,
      ((later.mesh.medium.transmissions index).map Packet.fingerprintOf?).Nodup) ∧
      ((takenWith Outcome.isDispatch past).map
        fun taken => Packet.fingerprintOf? taken.1).Nodup ∧
      ((takenWith Outcome.isReply past).map
        fun taken => Packet.fingerprintOf? taken.1).Nodup ∧
      ((takenWith Outcome.isQueued past).map
        fun taken => Packet.fingerprintOf? taken.1).Nodup := by
  have orderly := run.orderly blank distinct few
  have once {chosen : Outcome → Bool}
      (narrower : ∀ outcome, chosen outcome = true → outcome.isDispatch = true) :
      ((takenWith chosen past).map fun taken => Packet.fingerprintOf? taken.1).Nodup :=
    orderly.dispatchedOnce.sublist ((takenWith_sublist narrower past).map _)
  refine ⟨orderly.sentOnce, once fun _ => id, once ?_, once ?_⟩
  · intro outcome replied
    cases outcome with
    | delivered handled => rfl
    | dropped | forwarded | forwardFailed | replyFailed => cases replied
  · intro outcome queued
    cases outcome with
    | delivered handled => rfl
    | dropped | forwarded | forwardFailed | replyFailed => cases queued

/-! ### One poll over a relay -/

def Traffic.settled (traffic : Traffic) : Move → Bool
  | .begins _ errand => errand.announces
  | .proceeds _ _ => true
  | .hears reception =>
      traffic.senders.all fun sender =>
        sender.station ≠ reception.index || sender.pending?.isNone
  | .tends _ _ => false

private theorem Traffic.prompt_of_settled {limit : Nat} (traffic : Traffic) (move : Move)
    (settled : traffic.settled move = true) : traffic.Prompt limit move := by
  cases move with
  | begins station errand => exact settled
  | proceeds which verdict => exact trivial
  | hears reception =>
      intro sender present here
      have free := List.all_eq_true.mp settled sender present
      simpa [here] using free
  | tends station node => cases settled

theorem blank_pollChain : pollChain.Blank 2 where
  quiet := quiet_pollChain
  addresses := by decide
  forgetful := by decide
  roomy := by decide
  idle := rfl

theorem Traffic.Run.at_most_once_pollChain :
    ∃ past later, pollChain.follow? Traffic.settled pollMoves = some (past, later) ∧
      (issued past).length = 2 ∧
      (∀ index,
        ((later.mesh.medium.transmissions index).map Packet.fingerprintOf?).Nodup) ∧
      ((takenWith Outcome.isDispatch past).map
        fun taken => Packet.fingerprintOf? taken.1).Nodup ∧
      ((takenWith Outcome.isReply past).map
        fun taken => Packet.fingerprintOf? taken.1).Nodup ∧
      ((takenWith Outcome.isQueued past).map
        fun taken => Packet.fingerprintOf? taken.1).Nodup := by
  have ran : (pollChain.follow? Traffic.settled pollMoves).isSome = true := by decide +kernel
  obtain ⟨⟨past, later⟩, followed⟩ := Option.isSome_iff_exists.mp ran
  have counted : (pollChain.follow? Traffic.settled pollMoves).map (fun result =>
      ((issued result.1).length, decide (issued result.1).Nodup)) = some (2, true) := by
    decide +kernel
  rw [followed] at counted
  obtain ⟨two, different⟩ := Prod.mk.inj (Option.some.inj counted)
  have run : Run (Prompt 2) pollChain past later :=
    (Run.start.follow followed).mono fun traffic move => traffic.prompt_of_settled move
  exact ⟨past, later, followed, two,
    run.at_most_once blank_pollChain (of_decide_eq_true different) two.le⟩

end FloodMesh
