/-
A number that comes round again silences nobody.

After 256 packets a node uses its numbers again, and with them its fingerprints. A
relay that still remembered the old packet would drop the new one. But the relay
remembers ten fingerprints at most, and each packet of the node that it admits goes
behind the older ones. So while no copy comes late by 246 packets, nothing in the
memory is one of the next packets: the fingerprint of a packet to come may be there
only if, by the time the packet is due, it has been pushed out.
-/

import FloodMesh.Proofs.Echo
import FloodMesh.Proofs.Numbering

namespace FloodMesh

def Carries (frame : Bytes) (fingerprint : Fingerprint) : Prop :=
  ∃ packet, shortestFrame ≤ frame.length ∧ Checksum.isSealed frame = true ∧
    Packet.decode frame = .ok packet ∧ packet.hops ≠ 0 ∧ packet.fingerprint = fingerprint

private theorem carries_frame (packet : Packet) (alive : packet.hops ≠ 0) :
    Carries packet.frame packet.fingerprint :=
  ⟨packet, Packet.shortestFrame_le packet, Packet.isSealed_frame packet,
    Packet.decode_frame packet, alive, rfl⟩

/-! ### What a relay meets -/

inductive Arrival
  | copy (index : Nat) (surroundings : Surroundings) (frame : Bytes)
  | other (deed : Deed)

namespace Arrival

def deed : Arrival → Deed
  | .copy _ surroundings frame => .hears surroundings frame
  | .other deed => deed

def index? : Arrival → Option Nat
  | .copy index _ _ => some index
  | .other _ => none

/-- A copy bears the fingerprint of the packet that it is said to be of; nothing else
bears one of these; and the memory stays small. -/
def Fair (fingerprints : List Fingerprint) : Arrival → Prop
  | .copy index _ frame =>
      ∃ fingerprint, fingerprints[index]? = some fingerprint ∧ Carries frame fingerprint
  | .other (.hears _ frame) =>
      ∀ fingerprint, Carries frame fingerprint → fingerprint ∉ fingerprints
  | .other (.announces fingerprint) => fingerprint ∉ fingerprints
  | .other (.resizes capacity) => capacity ≤ Ring.greatestCapacity

end Arrival

/-- The packets that were heard, by their numbers, copies again and again. -/
def heard (arrivals : List Arrival) : List Nat := arrivals.filterMap Arrival.index?

def Node.after (node : Node) (arrivals : List Arrival) : Node :=
  arrivals.foldl (fun node arrival => arrival.deed.result node) node

/-- First copies come in the order of the packets, none is left out, and no copy
comes after the first of the packet 246 later. -/
structure InTurn (arrivals : List Arrival) : Prop where
  successive : ∀ before index surroundings frame after,
    arrivals = before ++ .copy index surroundings frame :: after →
    index ∉ heard before → ∀ earlier, earlier ∈ heard before ↔ earlier < index
  timely : ∀ before index surroundings frame after,
    arrivals = before ++ .copy index surroundings frame :: after →
    index + 246 ∉ heard before

private theorem InTurn.due {arrivals before after : List Arrival} {index admitted : Nat}
    {surroundings : Surroundings} {frame : Bytes} (inTurn : InTurn arrivals)
    (split : arrivals = before ++ .copy index surroundings frame :: after)
    (first : index ∉ heard before)
    (heardIff : ∀ item, item ∈ heard before ↔ item < admitted) : index = admitted := by
  have successive := inTurn.successive before index surroundings frame after split first
  have here := successive index
  have there := successive admitted
  rw [heardIff] at here there
  omega

/-- What a node digests, or may, for what it sends of its own accord. -/
def Node.ownInputs (node : Node) : List Bytes :=
  match node.duty with
  | .controller => []
  | .sensor _ => node.digested 256

/-! ### Entries that give way in time -/

def Spaced (fingerprints : List Fingerprint) : Prop :=
  ∀ first second fingerprint, fingerprints[first]? = some fingerprint →
    fingerprints[second]? = some fingerprint → first < second → first + 256 ≤ second

/-- So many packets were admitted. What is remembered of one still to come has enough
newer entries behind it to be gone by then, at ten entries. -/
def GivesWay (fingerprints : List Fingerprint) (admitted : Nat) (entries : List Fingerprint) :
    Prop :=
  ∀ index fingerprint older newer, admitted ≤ index →
    fingerprints[index]? = some fingerprint → entries = older ++ fingerprint :: newer →
    admitted + Ring.greatestCapacity ≤ index + newer.length

namespace GivesWay

variable {fingerprints entries : List Fingerprint} {admitted : Nat} {fingerprint : Fingerprint}
  {ring : Ring}

private theorem of_suffix (gives : GivesWay fingerprints admitted entries)
    {fewer : List Fingerprint} (behind : fewer <:+ entries) :
    GivesWay fingerprints admitted fewer := by
  obtain ⟨gone, rfl⟩ := behind
  intro index item older newer due present split
  exact gives index item (gone ++ older) newer due present (by rw [split, List.append_assoc])

/-- A new entry only pushes the others towards the end. -/
theorem push (gives : GivesWay fingerprints admitted entries)
    (far : ∀ index, admitted ≤ index → fingerprints[index]? = some fingerprint →
      admitted + Ring.greatestCapacity ≤ index) :
    GivesWay fingerprints admitted (entries ++ [fingerprint]) := by
  intro index item older newer due present split
  rcases List.eq_nil_or_concat' newer with rfl | ⟨inner, last, rfl⟩
  · obtain ⟨_, same⟩ := List.append_inj' split rfl
    cases same
    exact Nat.le_add_right_of_le (far index due present)
  · rw [← List.cons_append, ← List.append_assoc] at split
    obtain ⟨splitInner, _⟩ := List.append_inj' split rfl
    have inTime := gives index item older inner due present splitInner
    rw [List.length_append]
    omega

private theorem insert (gives : GivesWay fingerprints admitted ring.entries)
    (far : ∀ index, admitted ≤ index → fingerprints[index]? = some fingerprint →
      admitted + Ring.greatestCapacity ≤ index) :
    GivesWay fingerprints admitted (ring.insert fingerprint).entries := by
  by_cases known : fingerprint ∈ ring.entries
  · rw [Ring.insert_of_mem known]
    exact gives
  · rw [Ring.entries_insert_of_new known]
    exact (gives.push far).of_suffix (newest_suffix _ _)

private theorem insert_foreign (gives : GivesWay fingerprints admitted ring.entries)
    (foreign : fingerprint ∉ fingerprints) :
    GivesWay fingerprints admitted (ring.insert fingerprint).entries :=
  gives.insert fun _ _ present => absurd (List.mem_of_getElem? present) foreign

private theorem foldl_insert_foreign (gives : GivesWay fingerprints admitted ring.entries)
    {items : List Fingerprint} (foreign : ∀ item ∈ items, item ∉ fingerprints) :
    GivesWay fingerprints admitted (items.foldl Ring.insert ring).entries := by
  induction items generalizing ring with
  | nil => exact gives
  | cons item rest ih =>
      exact ih (gives.insert_foreign (foreign item List.mem_cons_self))
        fun other inRest => foreign other (List.mem_cons_of_mem _ inRest)

/-- A copy of a packet that was admitted before, but not too long before. -/
theorem insert_late (gives : GivesWay fingerprints admitted ring.entries)
    (spaced : Spaced fingerprints) {index : Nat}
    (present : fingerprints[index]? = some fingerprint) (earlier : index < admitted)
    (timely : admitted ≤ index + 246) :
    GivesWay fingerprints admitted (ring.insert fingerprint).entries := by
  apply gives.insert
  intro later due alsoPresent
  have apart := spaced index later fingerprint present alsoPresent (by omega)
  unfold Ring.greatestCapacity
  omega

/-- The packet that is due is not remembered: there is no room for what would have to
be behind it. -/
theorem not_mem_due (gives : GivesWay fingerprints admitted ring.entries)
    (small : ring.capacity ≤ Ring.greatestCapacity)
    (due : fingerprints[admitted]? = some fingerprint) : fingerprint ∉ ring.entries := by
  intro known
  obtain ⟨older, newer, split⟩ := List.append_of_mem known
  have behind := gives admitted fingerprint older newer le_rfl due split
  have short := ring.length_entries_le
  rw [split, List.length_append, List.length_cons] at short
  omega

/-- Once the packet that is due is remembered, one more entry is behind the others. -/
theorem insert_due (gives : GivesWay fingerprints admitted ring.entries)
    (small : ring.capacity ≤ Ring.greatestCapacity) (spaced : Spaced fingerprints)
    (due : fingerprints[admitted]? = some fingerprint) :
    GivesWay fingerprints (admitted + 1) (ring.insert fingerprint).entries := by
  rw [Ring.entries_insert_of_new (gives.not_mem_due small due)]
  refine of_suffix ?_ (newest_suffix _ _)
  intro index item older newer later present split
  rcases List.eq_nil_or_concat' newer with rfl | ⟨inner, last, rfl⟩
  · obtain ⟨_, same⟩ := List.append_inj' split rfl
    cases same
    have apart := spaced admitted index fingerprint due present (by omega)
    unfold Ring.greatestCapacity
    omega
  · rw [← List.cons_append, ← List.append_assoc] at split
    obtain ⟨splitInner, _⟩ := List.append_inj' split rfl
    have inTime := gives index item older inner (by omega) present splitInner
    rw [List.length_append, List.length_singleton]
    omega

end GivesWay

/-! ### What a frame adds to the memory -/

namespace Node

variable {node : Node} {surroundings : Surroundings} {frame : Bytes}

/-- A frame that is handled is remembered, and behind it the reply to it. -/
theorem ring_process_of_examined {packet : Packet}
    (examined : examine node.absorbedRing frame = .ok packet) :
    (node.process surroundings frame).node.ring =
      (node.process surroundings frame).outcome.reply?.toList.foldl Ring.insert
        (node.absorbedRing.insert packet.fingerprint) := by
  have course := course_process node surroundings frame
  revert course
  generalize (node.process surroundings frame).outcome = outcome
  generalize deeds (node.process surroundings frame).effects = done
  generalize (node.process surroundings frame).node.ring = ring
  intro course
  have passed : ∀ other, examine node.absorbedRing frame = .ok other → other = packet := by
    intro other alsoExamined
    rw [examined] at alsoExamined
    exact (Except.ok.inj alsoExamined).symm
  cases course with
  | dropped refused =>
      rw [examined] at refused
      cases refused
  | forwarded admitted foreign accepted => rw [passed _ admitted]; rfl
  | forwardFailed admitted foreign refused => rw [passed _ admitted]; rfl
  | queued admitted own duty content entryEq => rw [passed _ admitted]; rfl
  | reported admitted own duty content => rw [passed _ admitted]; rfl
  | ignored admitted own idle => rw [passed _ admitted]; rfl
  | replied admitted own duty asked accepted => rw [passed _ admitted]; rfl
  | replyFailed admitted own duty asked refused => rw [passed _ admitted]; rfl

private theorem ring_process_of_dropped {reason : DropReason}
    (refused : examine node.absorbedRing frame = .error reason) :
    (node.process surroundings frame).node.ring = node.absorbedRing := by
  rw [process_of_refused surroundings refused]
  rfl

/-- A reply bears a number of the sensor that gives it. -/
theorem reply?_process {fingerprint : Fingerprint}
    (replied : (node.process surroundings frame).outcome.reply? = some fingerprint) :
    ∃ probe, node.duty = .sensor probe ∧
      fingerprint = Fingerprint.generate node.address node.sequence := by
  have course := course_process node surroundings frame
  revert course replied
  generalize (node.process surroundings frame).outcome = outcome
  generalize deeds (node.process surroundings frame).effects = done
  generalize (node.process surroundings frame).node.ring = ring
  intro replied course
  cases course with
  | replied admitted own duty asked accepted => exact ⟨_, duty, (Option.some.inj replied).symm⟩
  | dropped | forwarded | forwardFailed | queued | reported | ignored | replyFailed =>
      cases replied

private theorem examine_of_carries {ring : Ring} {fingerprint : Fingerprint}
    (carries : Carries frame fingerprint) (unknown : fingerprint ∉ ring.entries) :
    ∃ packet, examine ring frame = .ok packet ∧ packet.fingerprint = fingerprint := by
  obtain ⟨packet, long, closes, reads, alive, rfl⟩ := carries
  exact ⟨packet, examine_eq_ok_iff.mpr
    ⟨long, closes, reads, alive, Ring.contains_eq_false_iff.mpr unknown⟩, rfl⟩

private theorem carries_of_examine {ring : Ring} {packet : Packet}
    (examined : examine ring frame = .ok packet) : Carries frame packet.fingerprint := by
  obtain ⟨long, closes, reads, alive, _⟩ := examine_eq_ok_iff.mp examined
  exact ⟨packet, long, closes, reads, alive, rfl⟩

end Node

private theorem Carries.unique {frame : Bytes} {first second : Fingerprint}
    (carries : Carries frame first) (alsoCarries : Carries frame second) : first = second := by
  obtain ⟨packet, _, _, reads, _, rfl⟩ := carries
  obtain ⟨other, _, _, alsoReads, _, rfl⟩ := alsoCarries
  rw [reads] at alsoReads
  cases alsoReads
  rfl

/-! ### A relay that keeps up -/

structure KeepsUp (fingerprints : List Fingerprint) (admitted : Nat) (node : Node) : Prop where
  distinct : node.ring.entries.Nodup
  small : node.ring.capacity ≤ Ring.greatestCapacity
  announced : ∀ fingerprint ∈ node.announced, fingerprint ∉ fingerprints
  own : ∀ probe, node.duty = .sensor probe → ∀ number,
    Fingerprint.generate node.address number ∉ fingerprints
  gives : GivesWay fingerprints admitted node.ring.entries

namespace KeepsUp

variable {start node : Node} {fingerprints : List Fingerprint} {admitted : Nat}
  {surroundings : Surroundings} {frame : Bytes}

private theorem gives_absorbed (keeps : KeepsUp fingerprints admitted node) :
    GivesWay fingerprints admitted node.absorbedRing.entries :=
  keeps.gives.foldl_insert_foreign keeps.announced

/-- When a frame is heard, all depends on what the frame itself puts into the memory. -/
theorem hears (keeps : KeepsUp fingerprints admitted node) {later : Nat}
    (refused : (∃ reason, Node.examine node.absorbedRing frame = .error reason) →
      GivesWay fingerprints later node.absorbedRing.entries)
    (taken : ∀ packet, Node.examine node.absorbedRing frame = .ok packet →
      GivesWay fingerprints later (node.absorbedRing.insert packet.fingerprint).entries) :
    KeepsUp fingerprints later (node.process surroundings frame).node := by
  have course := course_process node surroundings frame
  obtain ⟨addressEq, announcedEq⟩ := Node.process_keeps node surroundings frame
  have absorbed : node.absorbedRing.entries.Nodup :=
    Ring.nodup_foldl_insert keeps.distinct node.announced
  refine ⟨?_, course.capacity.trans_le keeps.small, ?_, ?_, ?_⟩
  · cases examined : Node.examine node.absorbedRing frame with
    | error reason =>
        rw [Node.ring_process_of_dropped examined]
        exact absorbed
    | ok packet =>
        rw [Node.ring_process_of_examined examined]
        exact Ring.nodup_foldl_insert (Ring.nodup_insert absorbed _) _
  · rw [announcedEq]
    exact fun fingerprint none => by cases none
  · intro probe sensor
    rw [(Node.worked_process node surroundings frame).duty] at sensor
    obtain ⟨first, wasSensor, _⟩ := Duty.of_readOn_sensor sensor
    rw [addressEq]
    exact keeps.own first wasSensor
  · cases examined : Node.examine node.absorbedRing frame with
    | error reason =>
        rw [Node.ring_process_of_dropped examined]
        exact refused ⟨reason, examined⟩
    | ok packet =>
        rw [Node.ring_process_of_examined examined]
        apply (taken packet examined).foldl_insert_foreign
        intro fingerprint replied
        obtain ⟨probe, sensor, rfl⟩ := Node.reply?_process (Option.mem_toList.mp replied)
        exact keeps.own probe sensor node.sequence

/-- Everything but a copy leaves the relay as far as it was. -/
theorem other (keeps : KeepsUp fingerprints admitted node) {deed : Deed}
    (fair : (Arrival.other deed).Fair fingerprints) :
    KeepsUp fingerprints admitted (deed.result node) := by
  cases deed with
  | hears surroundings frame =>
      refine keeps.hears (fun _ => keeps.gives_absorbed) ?_
      intro packet examined
      exact keeps.gives_absorbed.insert_foreign (fair _ (Node.carries_of_examine examined))
  | announces fingerprint =>
      have foreign : fingerprint ∉ fingerprints := fair
      refine { keeps with announced := ?_ }
      intro item told
      rcases List.mem_append.mp told with before | new
      · exact keeps.announced item before
      · rw [List.mem_singleton.mp new]
        exact foreign
  | resizes capacity =>
      have small : capacity ≤ Ring.greatestCapacity := fair
      refine
        { keeps with
          distinct := Ring.nodup_resize keeps.distinct capacity
          small := (Ring.capacity_resize _ _).trans_le small
          gives := ?_ }
      rw [Deed.result, Ring.entries_resize keeps.distinct]
      exact keeps.gives.of_suffix (newest_suffix _ _)

/-- So does a copy of a packet that was admitted before. -/
theorem late (keeps : KeepsUp fingerprints admitted node) (spaced : Spaced fingerprints)
    {index : Nat} (fair : (Arrival.copy index surroundings frame).Fair fingerprints)
    (earlier : index < admitted) (timely : admitted ≤ index + 246) :
    KeepsUp fingerprints admitted (node.process surroundings frame).node := by
  obtain ⟨fingerprint, present, carries⟩ := fair
  refine keeps.hears (fun _ => keeps.gives_absorbed) ?_
  intro packet examined
  rw [(Node.carries_of_examine examined).unique carries]
  exact keeps.gives_absorbed.insert_late spaced present earlier timely

/-- The first copy of the packet that is due is admitted. -/
theorem due (keeps : KeepsUp fingerprints admitted node) (spaced : Spaced fingerprints)
    (fair : (Arrival.copy admitted surroundings frame).Fair fingerprints) :
    (∀ reason, (node.process surroundings frame).outcome ≠ .dropped reason) ∧
      KeepsUp fingerprints (admitted + 1) (node.process surroundings frame).node := by
  obtain ⟨fingerprint, present, carries⟩ := fair
  have small : node.absorbedRing.capacity ≤ Ring.greatestCapacity :=
    node.capacity_absorbedRing.trans_le keeps.small
  obtain ⟨packet, examined, same⟩ :=
    Node.examine_of_carries carries (keeps.gives_absorbed.not_mem_due small present)
  refine ⟨Node.handled_iff.mpr ⟨packet, examined⟩, keeps.hears ?_ ?_⟩
  · rintro ⟨reason, refused⟩
    rw [examined] at refused
    cases refused
  · intro read alsoExamined
    rw [(Node.carries_of_examine alsoExamined).unique carries]
    exact keeps.gives_absorbed.insert_due small spaced present

/-- After any arrivals the relay has admitted the packets that it heard, in turn. -/
theorem after (keeps : KeepsUp fingerprints 0 start) (spaced : Spaced fingerprints)
    {arrivals before rest : List Arrival} (fair : ∀ arrival ∈ arrivals, arrival.Fair fingerprints)
    (inTurn : InTurn arrivals) (split : arrivals = before ++ rest) :
    ∃ admitted, (∀ index, index ∈ heard before ↔ index < admitted) ∧
      KeepsUp fingerprints admitted (start.after before) := by
  -- The last arrival is the last step, so the induction takes arrivals off the end.
  induction before using List.reverseRecOn generalizing rest with
  | nil => exact ⟨0, fun index => by simp [heard], keeps⟩
  | append_singleton earlier arrival ih =>
      rw [List.append_assoc, List.singleton_append] at split
      obtain ⟨admitted, heardIff, keepsUp⟩ := ih split
      have fairArrival : arrival.Fair fingerprints := fair arrival (by rw [split]; simp)
      unfold Node.after
      rw [List.foldl_append]
      cases arrival with
      | other deed =>
          refine ⟨admitted, ?_, keepsUp.other fairArrival⟩
          simpa [heard, Arrival.index?] using heardIff
      | copy index surroundings frame =>
          have heardAppend : ∀ item,
              item ∈ heard (earlier ++ [.copy index surroundings frame]) ↔
                item < admitted ∨ item = index := by
            intro item
            rw [← heardIff]
            simp [heard, Arrival.index?]
          by_cases known : index ∈ heard earlier
          · have below := (heardIff index).mp known
            have timely := inTurn.timely earlier index surroundings frame rest split
            rw [heardIff] at timely
            refine ⟨admitted, ?_, keepsUp.late spaced fairArrival below (by omega)⟩
            intro item
            rw [heardAppend]
            omega
          · cases inTurn.due split known heardIff
            refine ⟨admitted + 1, ?_, (keepsUp.due spaced fairArrival).2⟩
            intro item
            rw [heardAppend]
            omega

end KeepsUp

namespace Node

variable {origin last fresh : Node} {occasions : List Occasion} {trials : List Trial}

def started (fresh : Node) (capacity : Nat) (saved : Option Snapshot) : Node :=
  { fresh with ring := Ring.restore capacity saved }

private theorem Counted.spaced (counted : origin.Counted trials last)
    (apart : Sha256.CollisionFree (origin.digested (airedPackets trials).length)) :
    Spaced ((airedPackets trials).map Packet.fingerprint) := by
  intro first second fingerprint firstAt secondAt before
  rw [List.getElem?_map, Option.map_eq_some_iff] at firstAt secondAt
  obtain ⟨packet, firstAired, rfl⟩ := firstAt
  obtain ⟨other, secondAired, same⟩ := secondAt
  obtain ⟨_, firstEq⟩ := counted.fingerprint_of_aired firstAired
  obtain ⟨within, secondEq⟩ := counted.fingerprint_of_aired secondAired
  by_contra near
  apply fingerprintAfter_ne_of_near apart before (by omega) within
  rw [← firstEq, ← secondEq, same]

/-- What another sensor sends of its own accord bears no fingerprint of the origin's. -/
theorem Counted.own_foreign (counted : origin.Counted trials last)
    (different : fresh.address ≠ origin.address)
    (apart : Sha256.CollisionFree
      (origin.digested (airedPackets trials).length ++ fresh.ownInputs))
    {probe : Probe} (sensor : fresh.duty = .sensor probe) (number : UInt8) :
    Fingerprint.generate fresh.address number ∉
      (airedPackets trials).map Packet.fingerprint := by
  intro listed
  obtain ⟨packet, aired, same⟩ := List.mem_map.mp listed
  obtain ⟨index, airedAt⟩ := List.mem_iff_getElem?.mp aired
  obtain ⟨within, fingerprintEq⟩ := counted.fingerprint_of_aired airedAt
  have ownInput : Fingerprint.preimage fresh.address number ∈ fresh.ownInputs := by
    have offset := (number - fresh.sequence).toNat_lt
    have digestedOwn := @mem_digested fresh 256 (number - fresh.sequence).toNat offset
    rw [UInt8.ofNat_toNat, UInt8.add_comm, UInt8.sub_add_cancel] at digestedOwn
    unfold ownInputs
    rw [sensor]
    exact digestedOwn
  have addressEq := (Fingerprint.generate_inj apart
    (List.mem_append_left _ (mem_digested within)) (List.mem_append_right _ ownInput)
    (fingerprintEq.symm.trans same)).1
  exact different addressEq.symm

private theorem keepsUp_started {fingerprints : List Fingerprint} {capacity : Nat}
    {saved : Option Snapshot} (small : capacity ≤ Ring.greatestCapacity)
    (clean : ∀ fingerprint ∈ fingerprints.take Ring.greatestCapacity,
      fingerprint ∉ (Ring.restore capacity saved).entries)
    (untold : ∀ fingerprint ∈ fresh.announced, fingerprint ∉ fingerprints)
    (own : ∀ probe, fresh.duty = .sensor probe → ∀ number,
      Fingerprint.generate fresh.address number ∉ fingerprints) :
    KeepsUp fingerprints 0 (fresh.started capacity saved) := by
  refine ⟨Ring.nodup_restore capacity saved, (Ring.capacity_restore capacity saved).trans_le small,
    untold, own, ?_⟩
  intro index fingerprint older newer _ present split
  by_contra early
  have among : fingerprint ∈ fingerprints.take Ring.greatestCapacity := by
    apply List.mem_of_getElem? (i := index)
    rw [List.getElem?_take_of_lt (by omega)]
    exact present
  have remembered : fingerprint ∈ (fresh.started capacity saved).ring.entries := by
    rw [split]
    simp
  exact clean fingerprint among remembered

/-- A relay with ten slots at most hears the packets of another node in turn, however
many they are, in any traffic that has none of their fingerprints, and no copy of one
comes after the first copy of the one 246 later. Then every first copy is admitted. At
the start the relay may remember whatever it likes but the first ten packets. -/
theorem first_copies_admitted {capacity : Nat} {saved : Option Snapshot}
    {arrivals before after : List Arrival} {index : Nat} {surroundings : Surroundings}
    {frame : Bytes} (met : origin.meetAll? occasions = some (trials, last))
    (different : fresh.address ≠ origin.address)
    (apart : Sha256.CollisionFree
      (origin.digested (airedPackets trials).length ++ fresh.ownInputs))
    (small : capacity ≤ Ring.greatestCapacity)
    (clean : ∀ packet ∈ (airedPackets trials).take Ring.greatestCapacity,
      packet.fingerprint ∉ (Ring.restore capacity saved).entries)
    (untold : ∀ packet ∈ airedPackets trials, packet.fingerprint ∉ fresh.announced)
    (fair : ∀ arrival ∈ arrivals, arrival.Fair ((airedPackets trials).map Packet.fingerprint))
    (inTurn : InTurn arrivals)
    (split : arrivals = before ++ .copy index surroundings frame :: after)
    (first : index ∉ heard before) :
    ∀ reason, (((fresh.started capacity saved).after before).process surroundings
      frame).outcome ≠ .dropped reason := by
  have counted := counted_of_meetAll met
  have spaced := counted.spaced (apart.mono (List.subset_append_left _ _))
  have start : KeepsUp ((airedPackets trials).map Packet.fingerprint) 0
      (fresh.started capacity saved) := by
    apply keepsUp_started small
    · rw [← List.map_take]
      exact List.forall_mem_map.mpr clean
    · intro fingerprint told listed
      obtain ⟨packet, aired, rfl⟩ := List.mem_map.mp listed
      exact untold packet aired told
    · exact fun probe sensor => counted.own_foreign different apart sensor
  obtain ⟨admitted, heardIff, keeps⟩ := start.after spaced fair inTurn split
  cases inTurn.due split first heardIff
  exact (keeps.due spaced (fair _ (by rw [split]; simp))).1

/-! ### A relay with one slot -/

def turning : Node := { polling with sequence := 254 }

def lap (index : Nat) : Packet :=
  { Sending.compose question turning with fingerprint := turning.fingerprintAfter index }

def fourAsked : List Occasion := List.replicate 4 (.asks question none)

def bystander : Node where
  address := .numbered 3
  duty := .controller
  ring := Ring.empty 0
  queue := Queue.new 1

/-- The four requests are heard in turn and the first two of them twice, with noise and a
resize in between. -/
def passingBy : List Arrival :=
  [ .copy 0 { verdict := none, now := 0 } (lap 0).passedOn.frame,
    .other (.hears { verdict := none, now := 1 } [1, 2, 3]),
    .copy 1 { verdict := none, now := 2 } (lap 1).passedOn.frame,
    .other (.resizes 1),
    .copy 0 { verdict := none, now := 3 } (lap 0).frame,
    .copy 2 { verdict := none, now := 4 } (lap 2).passedOn.frame,
    .copy 1 { verdict := none, now := 5 } (lap 1).frame,
    .copy 3 { verdict := none, now := 6 } (lap 3).passedOn.frame ]

private theorem fair_passingBy : ∀ arrival ∈ passingBy,
    arrival.Fair ((List.range 4).map turning.fingerprintAfter) := by
  have noise (fingerprint : Fingerprint) : ¬ Carries [1, 2, 3] fingerprint := by
    rintro ⟨packet, long, _⟩
    exact absurd long (by decide)
  have first (index : Nat) : Carries (lap index).passedOn.frame (turning.fingerprintAfter index) :=
    carries_frame (lap index).passedOn (show (3 : UInt8) - 1 ≠ 0 by decide)
  have late (index : Nat) : Carries (lap index).frame (turning.fingerprintAfter index) :=
    carries_frame (lap index) (show (3 : UInt8) ≠ 0 by decide)
  intro arrival among
  simp only [passingBy, List.mem_cons, List.not_mem_nil, or_false] at among
  rcases among with rfl | rfl | rfl | rfl | rfl | rfl | rfl | rfl
  · exact ⟨_, rfl, first 0⟩
  · exact fun fingerprint carries => absurd carries (noise fingerprint)
  · exact ⟨_, rfl, first 1⟩
  · exact (by decide : 1 ≤ Ring.greatestCapacity)
  · exact ⟨_, rfl, late 0⟩
  · exact ⟨_, rfl, first 2⟩
  · exact ⟨_, rfl, late 1⟩
  · exact ⟨_, rfl, first 3⟩

private theorem steady_passingBy {before after : List Arrival} {index : Nat}
    {surroundings : Surroundings} {frame : Bytes}
    (split : passingBy = before ++ .copy index surroundings frame :: after) :
    (index ∉ heard before →
        (∀ earlier ∈ heard before, earlier < index) ∧ ∀ earlier < index, earlier ∈ heard before) ∧
      index + 246 ∉ heard before := by
  have beforeEq : before = passingBy.take before.length := by rw [split, List.take_left]
  have there : passingBy[before.length]? = some (.copy index surroundings frame) := by
    rw [split, List.getElem?_append_right le_rfl, Nat.sub_self]
    rfl
  generalize before.length = place at beforeEq there
  subst beforeEq
  rcases place with _ | _ | _ | _ | _ | _ | _ | _ | place <;> cases there <;> decide

private theorem inTurn_passingBy : InTurn passingBy where
  successive _ _ _ _ _ split first earlier :=
    let ⟨below, all⟩ := (steady_passingBy split).1 first
    ⟨below earlier, all earlier⟩
  timely _ _ _ _ _ split := (steady_passingBy split).2

/-- The third request is the first with a number from behind the turn. It is handled, though
a late copy of a request from before it has the only slot. -/
theorem first_copies_admitted_passingBy :
    (lap 1).fingerprint = .generate turning.address 255 ∧
      (lap 2).fingerprint = .generate turning.address 0 ∧
      heard (passingBy.take 5) = [0, 1, 0] ∧
      ∀ reason, (((bystander.started 2 none).after (passingBy.take 5)).process
        { verdict := none, now := 4 } (lap 2).passedOn.frame).outcome ≠
          .dropped reason := by
  obtain ⟨⟨trials, last⟩, met⟩ : ∃ result, turning.meetAll? fourAsked = some result :=
    Option.isSome_iff_exists.mp (by decide +kernel)
  have count : (turning.meetAll? fourAsked).map (fun result =>
      (airedPackets result.1).length) = some 4 := by
    decide +kernel
  rw [met, Option.map_some, Option.some.injEq] at count
  have fair := fair_passingBy
  have fingerprints := (counted_of_meetAll met).aired_eq
  rw [count] at fingerprints
  rw [← fingerprints] at fair
  have apart : Sha256.CollisionFree
      (turning.digested (airedPackets trials).length ++ bystander.ownInputs) := by
    rw [count]
    exact Sha256.collisionFree_of_nodup (by decide +kernel)
  have clean : ∀ packet ∈ (airedPackets trials).take Ring.greatestCapacity,
      packet.fingerprint ∉ (Ring.restore 2 none).entries := by
    intro packet _ remembered
    simp [Ring.restore, Ring.refill] at remembered
  have split : passingBy = passingBy.take 5 ++
      .copy 2 { verdict := none, now := 4 } (lap 2).passedOn.frame :: passingBy.drop 6 := rfl
  exact ⟨rfl, rfl, rfl, first_copies_admitted met (by decide) apart (by decide) clean
    (fun packet _ told => by cases told) fair inTurn_passingBy split (by decide)⟩

end Node

end FloodMesh
