/-
The numbers of the packets that a node originates.

A poller sends requests and a sensor's duty sends replies, one try after the other. A
try reads the node's number, hands a frame to the radio and counts the number up only
if the radio took the frame. So the packets that go out carry the fingerprints of
successive numbers, whatever was refused in between. A number comes back after 256
packets, and what is digested tells origin and number apart, so short of a collision
of digests the fingerprints of nearer packets differ.
-/

import FloodMesh.Poll.Request
import FloodMesh.Proofs.Course
import Mathlib

namespace FloodMesh

/-! ### What is digested -/

namespace Sha256

/-- No two of these inputs have the same digest. -/
def CollisionFree (inputs : List Bytes) : Prop :=
  Set.InjOn digest { input | input ∈ inputs }

theorem collisionFree_of_nodup {inputs : List Bytes} (distinct : (inputs.map digest).Nodup) :
    CollisionFree inputs :=
  fun _ present _ alsoPresent same =>
    List.inj_on_of_nodup_map distinct present alsoPresent same

theorem CollisionFree.mono {inputs fewer : List Bytes} (apart : CollisionFree inputs)
    (among : fewer ⊆ inputs) : CollisionFree fewer :=
  Set.InjOn.mono among apart

end Sha256

namespace Fingerprint

private theorem toNat_lt_of_mem_toDigits {number : Nat} {char : Char}
    (digit : char ∈ Nat.toDigits 10 number) : char.toNat < 0x80 := by
  have isDigit := Nat.isDigit_of_mem_toDigits (by decide) (by decide) digit
  have bounds : 48 ≤ char.val ∧ char.val ≤ 57 := by simpa [Char.isDigit] using isDigit
  have upper : char.toNat ≤ 57 := UInt32.le_iff_toNat_le.mp bounds.2
  omega

/-- The digits of a number can be read off their bytes. -/
theorem chars_encode_toDigits (number : Nat) :
    (Utf8.encode (Nat.toDigits 10 number)).map (fun byte => Char.ofNat byte.toNat) =
      Nat.toDigits 10 number := by
  have bytewise : ∀ char ∈ Nat.toDigits 10 number,
      (Utf8.encodeChar char).map (fun byte => Char.ofNat byte.toNat) = [char] := by
    intro char digit
    have ascii := toNat_lt_of_mem_toDigits digit
    unfold Utf8.encodeChar
    rw [if_pos ascii]
    simp only [List.map_cons, List.map_nil, UInt8.toNat_ofNat']
    rw [Nat.mod_eq_of_lt (by omega), Char.ofNat_toNat]
  unfold Utf8.encode
  rw [List.map_flatMap, List.flatMap_congr bytewise, List.flatMap_singleton']

private theorem preimage_inj {first second : Address} {number other : UInt8}
    (same : preimage first number = preimage second other) :
    first = second ∧ number = other := by
  unfold preimage at same
  obtain ⟨bytesEq, digitsEq⟩ :=
    List.append_inj same (first.length_eq.trans second.length_eq.symm)
  constructor
  · obtain ⟨bytes, _, _⟩ := first
    cases bytesEq
    rfl
  · have charsEq := congrArg (List.map fun byte => Char.ofNat byte.toNat) digitsEq
    rw [chars_encode_toDigits, chars_encode_toDigits] at charsEq
    have valuesEq := congrArg (fun digits => Nat.ofDigitChars 10 digits 0) charsEq
    simp only [Nat.ofDigitChars_ten_toDigits] at valuesEq
    exact UInt8.toNat_inj.mp valuesEq

/-- Without a collision a fingerprint tells origin and number. -/
theorem generate_inj {inputs : List Bytes} (apart : Sha256.CollisionFree inputs)
    {first second : Address} {number other : UInt8} (present : preimage first number ∈ inputs)
    (alsoPresent : preimage second other ∈ inputs)
    (same : generate first number = generate second other) : first = second ∧ number = other :=
  preimage_inj (apart present alsoPresent (congrArg Fingerprint.bytes same))

end Fingerprint

/-! ### Tries -/

structure Trial where
  packet : Packet
  /-- What kept the packet from going out, if anything did. -/
  fault : Option RadioFault
  frames : List Bytes
  before : Node
  after : Node

def Trial.isAired (trial : Trial) : Bool := trial.fault.isNone

def airedPackets (trials : List Trial) : List Packet :=
  (trials.filter Trial.isAired).map Trial.packet

def faultOf {α : Type} : Except RadioFault α → Option RadioFault
  | .error fault => some fault
  | .ok _ => none

inductive Occasion
  /-- Its poller sends a request; this is the radio's answer. -/
  | asks (errand : Errand) (verdict : Verdict)
  | replies (surroundings : Surroundings) (request : Packet)
  /-- Its other tasks have made this of it. -/
  | tends (node : Node)

def Occasion.verdict? : Occasion → Option Verdict
  | .asks _ verdict => some verdict
  | .replies surroundings _ => some surroundings.verdict
  | .tends _ => none

namespace Node

def tryRequest (node : Node) (errand : Errand) (verdict : Verdict) : Trial :=
  let (result, after, effects) := node.request errand verdict
  { packet := Sending.compose errand node
    fault := faultOf result
    frames := sentFrames effects
    before := node
    after }

def tryReply (node : Node) (probe : Probe) (surroundings : Surroundings) (request : Packet) :
    Trial :=
  let handling := node.dispatch surroundings request
  { packet := node.reply request probe.read.1
    fault := faultOf (handling.result.mapError ReplyFailure.fault)
    frames := sentFrames handling.effects
    before := node
    after := handling.node }

/-- The try that an occasion leads to, if any, and the node after it. Only a sensor
replies, and only to a request; other tasks leave address and number alone. -/
def meet? (node : Node) : Occasion → Option (List Trial × Node)
  | .asks errand verdict =>
      let trial := node.tryRequest errand verdict
      some ([trial], trial.after)
  | .replies surroundings request =>
      match node.duty, request.kind with
      | .sensor probe, .request =>
          let trial := node.tryReply probe surroundings request
          some ([trial], trial.after)
      | _, _ => none
  | .tends other =>
      if other.address = node.address ∧ other.sequence = node.sequence then some ([], other)
      else none

def meetAll? (node : Node) : List Occasion → Option (List Trial × Node)
  | [] => some ([], node)
  | occasion :: rest =>
      (node.meet? occasion).bind fun met =>
        (met.2.meetAll? rest).map fun others => (met.1 ++ others.1, others.2)

/-- What a packet is known by that a node originates after so many others. -/
def fingerprintAfter (node : Node) (count : Nat) : Fingerprint :=
  Fingerprint.generate node.address (node.sequence + UInt8.ofNat count)

/-- What is digested for the first packets that a node originates. -/
def digested (node : Node) (count : Nat) : List Bytes :=
  (List.range count).map fun index =>
    Fingerprint.preimage node.address (node.sequence + UInt8.ofNat index)

end Node

/-! ### One try -/

namespace Sending

variable {errand : Errand} {verdict : Verdict} {node after : Node} {sending next : Sending}

private theorem run_of_ends {result : Except RadioFault Fingerprint}
    (ended : sending.turn errand verdict node = .ends result after) :
    sending.run errand verdict node = (result, after, []) := by
  rw [run]
  split
  · rename_i went
    rw [ended] at went
    cases went
    rfl
  · rename_i went
    rw [ended] at went
    cases went

private theorem run_of_goesOn {effects : List Effect}
    (goes : sending.turn errand verdict node = .goesOn next after effects) :
    sending.run errand verdict node =
      let rest := next.run errand verdict after
      (rest.1, rest.2.1, effects ++ rest.2.2) := by
  rw [run]
  split
  · rename_i went
    rw [goes] at went
    cases went
  · rename_i went
    rw [goes] at went
    cases went
    rfl

private theorem turn_composed (request : Packet) :
    (composed request).turn errand verdict node =
      match verdict with
      | some fault => .ends (.error fault) node
      | none => .goesOn (.accepted request) node [.sent request.frame] := by
  have vetted := Node.vet_frame verdict request
  cases verdict with
  | none => simp only [turn, vetted]
  | some fault => simp only [turn, vetted]

end Sending

namespace Node

private theorem request_of_refused (node : Node) (errand : Errand) (fault : RadioFault) :
    node.request errand (some fault) = (.error fault, node, []) := by
  unfold request
  rw [Sending.run_of_goesOn rfl, Sending.run_of_ends (Sending.turn_composed _)]
  rfl

private theorem request_of_accepted (node : Node) (errand : Errand) :
    node.request errand none =
      (.ok (Sending.compose errand node).fingerprint,
        (let counted := { node with sequence := node.sequence + 1 }
        if errand.announces then counted.announce (Sending.compose errand node).fingerprint
        else counted),
        [.sent (Sending.compose errand node).frame]) := by
  unfold request
  rw [Sending.run_of_goesOn rfl, Sending.run_of_goesOn (Sending.turn_composed _),
    Sending.run_of_goesOn rfl, Sending.run_of_ends rfl]
  rfl

end Node

/-- A try takes the node's number as it is. The number is used up, and the relay told,
only if the packet went out. -/
structure Trial.Sound (trial : Trial) : Prop where
  fingerprint_eq : trial.packet.fingerprint =
    Fingerprint.generate trial.before.address trial.before.sequence
  address_eq : trial.after.address = trial.before.address
  aired : trial.fault = none →
    trial.frames = [trial.packet.frame] ∧ trial.after.sequence = trial.before.sequence + 1
  refused : trial.fault ≠ none →
    trial.frames = [] ∧ trial.after.sequence = trial.before.sequence ∧
      trial.after.announced = trial.before.announced

namespace Node

variable {node later : Node}

private theorem sound_tryRequest (node : Node) (errand : Errand) (verdict : Verdict) :
    (node.tryRequest errand verdict).Sound := by
  cases verdict with
  | some fault =>
      unfold tryRequest
      rw [request_of_refused]
      exact ⟨rfl, rfl, fun impossible => (by cases impossible), fun _ => ⟨rfl, rfl, rfl⟩⟩
  | none =>
      have kept : ∀ told : Bool, ∀ fingerprint : Fingerprint,
          let counted := { node with sequence := node.sequence + 1 }
          let after := if told then counted.announce fingerprint else counted
          after.address = node.address ∧ after.sequence = node.sequence + 1 := by
        intro told fingerprint
        cases told <;> exact ⟨rfl, rfl⟩
      unfold tryRequest
      rw [request_of_accepted]
      obtain ⟨address, sequence⟩ :=
        kept errand.announces (Sending.compose errand node).fingerprint
      exact ⟨rfl, address, fun _ => ⟨rfl, sequence⟩, fun impossible => absurd rfl impossible⟩

private theorem fault_tryRequest (node : Node) (errand : Errand) (verdict : Verdict) :
    (node.tryRequest errand verdict).fault = verdict := by
  unfold tryRequest
  cases verdict with
  | some fault => rw [request_of_refused]; rfl
  | none => rw [request_of_accepted]; rfl

/-- A sensor answers what asks it. -/
theorem dispatch_of_asked {probe : Probe} {request : Packet} (surroundings : Surroundings)
    (duty : node.duty = .sensor probe) (asked : request.kind = .request) :
    node.dispatch surroundings request = node.answer surroundings probe request := by
  unfold Packet.kind at asked
  cases content : request.content with
  | request meshSize => simp only [dispatch, duty, content]
  | reading data =>
      rw [content] at asked
      cases asked
  | fault code =>
      rw [content] at asked
      cases asked

private theorem fault_tryReply {probe : Probe} {request : Packet} (surroundings : Surroundings)
    (duty : node.duty = .sensor probe) (asked : request.kind = .request) :
    (node.tryReply probe surroundings request).fault = surroundings.verdict := by
  unfold tryReply
  simp only [dispatch_of_asked surroundings duty asked, answer, vet_frame]
  cases surroundings.verdict <;> rfl

private theorem sound_tryReply {probe : Probe} {request : Packet} (surroundings : Surroundings)
    (duty : node.duty = .sensor probe) (asked : request.kind = .request) :
    (node.tryReply probe surroundings request).Sound := by
  unfold tryReply
  simp only [dispatch_of_asked surroundings duty asked, answer, vet_frame]
  cases surroundings.verdict with
  | none => exact ⟨rfl, rfl, fun _ => ⟨rfl, rfl⟩, fun impossible => absurd rfl impossible⟩
  | some fault =>
      exact ⟨rfl, rfl, fun impossible => (by cases impossible), fun _ => ⟨rfl, rfl, rfl⟩⟩

inductive Yields (node : Node) : List Trial → Node → Prop
  | tried {trial : Trial} (sound : trial.Sound) (begun : trial.before = node) :
      Yields node [trial] trial.after
  | tended {other : Node} (address_eq : other.address = node.address)
      (sequence_eq : other.sequence = node.sequence) : Yields node [] other

private theorem yields_of_meet? {occasion : Occasion} {trials : List Trial}
    (met : node.meet? occasion = some (trials, later)) : node.Yields trials later := by
  cases occasion with
  | asks errand verdict =>
      cases met
      exact .tried (sound_tryRequest node errand verdict) rfl
  | replies surroundings request =>
      simp only [meet?] at met
      split at met
      · rename_i duty asked
        cases met
        exact .tried (sound_tryReply surroundings duty asked) rfl
      · cases met
  | tends other =>
      simp only [meet?] at met
      split at met
      · rename_i same
        cases met
        exact .tended same.1 same.2
      · cases met

/-- A try ends as the radio answers. -/
theorem faults_of_meet? {occasion : Occasion} {trials : List Trial}
    (met : node.meet? occasion = some (trials, later)) :
    trials.map Trial.fault = occasion.verdict?.toList := by
  cases occasion with
  | asks errand verdict =>
      cases met
      exact congrArg (fun fault => [fault]) (fault_tryRequest node errand verdict)
  | replies surroundings request =>
      simp only [meet?] at met
      split at met
      · rename_i duty asked
        cases met
        exact congrArg (fun fault => [fault]) (fault_tryReply surroundings duty asked)
      · cases met
  | tends other =>
      simp only [meet?] at met
      split at met <;> cases met
      rfl

private theorem faults_of_meetAll? {occasions : List Occasion} {trials : List Trial}
    (met : node.meetAll? occasions = some (trials, later)) :
    trials.map Trial.fault = occasions.filterMap Occasion.verdict? := by
  induction occasions generalizing node trials with
  | nil =>
      cases met
      rfl
  | cons occasion rest ih =>
      obtain ⟨⟨first, middle⟩, metFirst, metRest⟩ := Option.bind_eq_some_iff.mp met
      obtain ⟨⟨others, last⟩, metOthers, same⟩ := Option.map_eq_some_iff.mp metRest
      cases same
      rw [List.map_append, faults_of_meet? metFirst, ih metOthers, List.filterMap_cons]
      cases occasion.verdict? <;> rfl

/-! ### A run of tries -/

structure Counted (start : Node) (trials : List Trial) (node : Node) : Prop where
  address_eq : node.address = start.address
  sequence_eq : node.sequence = start.sequence + UInt8.ofNat (airedPackets trials).length
  sound : ∀ trial ∈ trials, trial.Sound
  tried_eq : ∀ before trial after, trials = before ++ trial :: after →
    trial.packet.fingerprint = start.fingerprintAfter (airedPackets before).length
  aired_eq : (airedPackets trials).map Packet.fingerprint =
    (List.range (airedPackets trials).length).map start.fingerprintAfter

end Node

private theorem airedPackets_append (first second : List Trial) :
    airedPackets (first ++ second) = airedPackets first ++ airedPackets second := by
  unfold airedPackets
  rw [List.filter_append, List.map_append]

private theorem airedPackets_of_aired {trial : Trial} (aired : trial.fault = none) :
    airedPackets [trial] = [trial.packet] := by
  simp [airedPackets, Trial.isAired, aired]

private theorem airedPackets_of_refused {trial : Trial} (refused : trial.fault ≠ none) :
    airedPackets [trial] = [] := by
  simp [airedPackets, Trial.isAired, refused]

private theorem frames_of_sound {trials : List Trial} (sound : ∀ trial ∈ trials, trial.Sound) :
    trials.flatMap Trial.frames = (airedPackets trials).map Packet.frame := by
  induction trials with
  | nil => rfl
  | cons trial rest ih =>
      have first := sound trial List.mem_cons_self
      have others := ih fun other member => sound other (List.mem_cons_of_mem _ member)
      rw [← List.singleton_append, airedPackets_append, List.flatMap_append, List.map_append,
        others, List.flatMap_singleton]
      by_cases aired : trial.fault = none
      · rw [(first.aired aired).1, airedPackets_of_aired aired]
        rfl
      · rw [(first.refused aired).1, airedPackets_of_refused aired]
        rfl

namespace Node

variable {start node later : Node} {trials more : List Trial}

private theorem counted_start (start : Node) : start.Counted [] start where
  address_eq := rfl
  sequence_eq := by simp [airedPackets]
  sound trial none := by cases none
  tried_eq before trial after split := by simp at split
  aired_eq := rfl

private theorem Counted.tried (counted : start.Counted trials node) {trial : Trial}
    (sound : trial.Sound) (begun : trial.before = node) :
    start.Counted (trials ++ [trial]) trial.after := by
  have fingerprintEq : trial.packet.fingerprint =
      start.fingerprintAfter (airedPackets trials).length := by
    rw [sound.fingerprint_eq, begun, counted.address_eq, counted.sequence_eq]
    rfl
  have triedEq : ∀ before last after, trials ++ [trial] = before ++ last :: after →
      last.packet.fingerprint = start.fingerprintAfter (airedPackets before).length := by
    intro before last after split
    rcases List.eq_nil_or_concat' after with rfl | ⟨inner, final, rfl⟩
    · obtain ⟨rfl, same⟩ := List.append_inj' split rfl
      cases same
      exact fingerprintEq
    · rw [← List.cons_append, ← List.append_assoc] at split
      obtain ⟨rfl, _⟩ := List.append_inj' split rfl
      exact counted.tried_eq before last inner rfl
  have allSound : ∀ item ∈ trials ++ [trial], item.Sound := by
    intro item member
    rcases List.mem_append.mp member with earlier | last
    · exact counted.sound item earlier
    · rw [List.mem_singleton.mp last]
      exact sound
  have addressEq := sound.address_eq.trans (begun ▸ counted.address_eq)
  by_cases aired : trial.fault = none
  · refine ⟨addressEq, ?_, allSound, triedEq, ?_⟩
    · rw [(sound.aired aired).2, begun, counted.sequence_eq, airedPackets_append,
        airedPackets_of_aired aired, List.length_append, List.length_singleton,
        UInt8.ofNat_add, UInt8.add_assoc]
      rfl
    · rw [airedPackets_append, airedPackets_of_aired aired, List.map_append, counted.aired_eq,
        List.length_append, List.length_singleton, List.range_succ, List.map_append]
      simp only [List.map_cons, List.map_nil, fingerprintEq]
  · refine ⟨addressEq, ?_, allSound, triedEq, ?_⟩
    · rw [(sound.refused aired).2.1, begun, counted.sequence_eq, airedPackets_append,
        airedPackets_of_refused aired, List.append_nil]
    · rw [airedPackets_append, airedPackets_of_refused aired, List.append_nil]
      exact counted.aired_eq

private theorem Counted.yields (counted : start.Counted trials node)
    (yields : node.Yields more later) :
    start.Counted (trials ++ more) later := by
  cases yields with
  | tried sound begun => exact counted.tried sound begun
  | tended address_eq sequence_eq =>
      rw [List.append_nil]
      exact
        { counted with
          address_eq := address_eq.trans counted.address_eq
          sequence_eq := sequence_eq.trans counted.sequence_eq }

private theorem Counted.meetAll (counted : start.Counted trials node) {occasions : List Occasion}
    (met : node.meetAll? occasions = some (more, later)) :
    start.Counted (trials ++ more) later := by
  induction occasions generalizing trials more node with
  | nil =>
      cases met
      rw [List.append_nil]
      exact counted
  | cons occasion rest ih =>
      obtain ⟨⟨first, middle⟩, metFirst, metRest⟩ := Option.bind_eq_some_iff.mp met
      obtain ⟨⟨others, last⟩, metOthers, same⟩ := Option.map_eq_some_iff.mp metRest
      cases same
      rw [← List.append_assoc]
      exact ih (counted.yields (yields_of_meet? metFirst)) metOthers

theorem counted_of_meetAll {occasions : List Occasion}
    (met : start.meetAll? occasions = some (trials, later)) : start.Counted trials later :=
  (counted_start start).meetAll met

/-! ### Nearer than the numbers go -/

private theorem ofNat_ne_of_near {first second : Nat} (before : first < second)
    (near : second < first + 256) (number : UInt8) :
    number + UInt8.ofNat first ≠ number + UInt8.ofNat second := by
  intro same
  have offsets := congrArg UInt8.toNat (UInt8.add_right_inj number |>.mp same)
  rw [UInt8.toNat_ofNat', UInt8.toNat_ofNat'] at offsets
  omega

theorem mem_digested {node : Node} {count index : Nat} (within : index < count) :
    Fingerprint.preimage node.address (node.sequence + UInt8.ofNat index) ∈
      node.digested count :=
  List.mem_map.mpr ⟨index, List.mem_range.mpr within, rfl⟩

theorem fingerprintAfter_ne_of_near {node : Node} {count first second : Nat}
    (apart : Sha256.CollisionFree (node.digested count)) (before : first < second)
    (near : second < first + 256) (within : second < count) :
    node.fingerprintAfter first ≠ node.fingerprintAfter second := by
  intro same
  have numbersEq := (Fingerprint.generate_inj apart (mem_digested (by omega))
    (mem_digested within) same).2
  exact ofNat_ne_of_near before near node.sequence numbersEq

private theorem fingerprintAfter_ne_of_address {node other : Node}
    {count otherCount index otherIndex : Nat}
    (apart : Sha256.CollisionFree (node.digested count ++ other.digested otherCount))
    (different : other.address ≠ node.address) (within : index < count)
    (alsoWithin : otherIndex < otherCount) :
    node.fingerprintAfter index ≠ other.fingerprintAfter otherIndex := by
  intro same
  have addressEq := (Fingerprint.generate_inj apart
    (List.mem_append_left _ (mem_digested within))
    (List.mem_append_right _ (mem_digested alsoWithin)) same).1
  exact different addressEq.symm

theorem Counted.fingerprint_of_aired (counted : start.Counted trials node) {index : Nat}
    {packet : Packet} (aired : (airedPackets trials)[index]? = some packet) :
    index < (airedPackets trials).length ∧ packet.fingerprint = start.fingerprintAfter index := by
  obtain ⟨within, _⟩ := List.getElem?_eq_some_iff.mp aired
  have listed := congrArg (fun list => list[index]?) counted.aired_eq
  simp only [List.getElem?_map, aired, List.getElem?_range within, Option.map_some,
    Option.some.injEq] at listed
  exact ⟨within, listed⟩

private theorem Counted.retried (counted : start.Counted trials node) {before rest : List Trial}
    {trial next : Trial} (split : trials = before ++ trial :: next :: rest)
    (refused : trial.fault ≠ none) : next.packet.fingerprint = trial.packet.fingerprint := by
  have nextEq := counted.tried_eq (before ++ [trial]) next rest (by rw [split]; simp)
  rw [airedPackets_append, airedPackets_of_refused refused, List.append_nil] at nextEq
  exact nextEq.trans (counted.tried_eq before trial (next :: rest) split).symm

/-- Whatever the radio answers and a probe reads, and whatever other tasks do in between:
a try fails exactly if the radio refuses it, and it carries the fingerprint of the next
number that was not used up. If it is refused, nothing is put on the air, and number and
announcements are as before. The packets that go out bear successive numbers. Unless
digests collide, two of them that are less than 256 apart have different fingerprints,
and so have any two of nodes with different addresses. -/
theorem originations_numbered {occasions : List Occasion}
    (met : start.meetAll? occasions = some (trials, later)) :
    let aired := airedPackets trials
    trials.map Trial.fault = occasions.filterMap Occasion.verdict? ∧
      trials.flatMap Trial.frames = aired.map Packet.frame ∧
      aired.map Packet.fingerprint = (List.range aired.length).map start.fingerprintAfter ∧
      (∀ before trial after, trials = before ++ trial :: after →
        trial.packet.fingerprint = start.fingerprintAfter (airedPackets before).length ∧
          (trial.fault ≠ none →
            trial.frames = [] ∧ trial.after.sequence = trial.before.sequence ∧
              trial.after.announced = trial.before.announced ∧
              ∀ next ∈ after.head?, next.packet.fingerprint = trial.packet.fingerprint)) ∧
      later.sequence = start.sequence + UInt8.ofNat aired.length ∧
      (Sha256.CollisionFree (start.digested aired.length) →
        ∀ (first second : Nat) (packet nearby : Packet), aired[first]? = some packet →
          aired[second]? = some nearby → first < second → second < first + 256 →
          packet.fingerprint ≠ nearby.fingerprint) ∧
      ∀ (other last : Node) (others : List Occasion) (more : List Trial),
        other.meetAll? others = some (more, last) → other.address ≠ start.address →
        Sha256.CollisionFree
          (start.digested aired.length ++ other.digested (airedPackets more).length) →
        ∀ packet ∈ aired, ∀ foreign ∈ airedPackets more,
          packet.fingerprint ≠ foreign.fingerprint := by
  intro aired
  have counted := counted_of_meetAll met
  refine ⟨faults_of_meetAll? met, frames_of_sound counted.sound, counted.aired_eq, ?_,
    counted.sequence_eq, ?_, ?_⟩
  · intro before trial after split
    have sound := counted.sound trial (by rw [split]; simp)
    refine ⟨counted.tried_eq before trial after split, fun refused => ?_⟩
    obtain ⟨silent, sequence, announced⟩ := sound.refused refused
    refine ⟨silent, sequence, announced, fun next follows => ?_⟩
    obtain ⟨rest, rfl⟩ := List.head?_eq_some_iff.mp follows
    exact counted.retried split refused
  · intro apart first second packet nearby firstAired secondAired before near
    obtain ⟨_, firstEq⟩ := counted.fingerprint_of_aired firstAired
    obtain ⟨within, secondEq⟩ := counted.fingerprint_of_aired secondAired
    rw [firstEq, secondEq]
    exact fingerprintAfter_ne_of_near apart before near within
  · intro other last others more otherMet different apart packet present foreign alsoPresent
    obtain ⟨index, airedAt⟩ := List.mem_iff_getElem?.mp present
    obtain ⟨otherIndex, otherAiredAt⟩ := List.mem_iff_getElem?.mp alsoPresent
    obtain ⟨within, packetEq⟩ := counted.fingerprint_of_aired airedAt
    obtain ⟨alsoWithin, foreignEq⟩ :=
      (counted_of_meetAll otherMet).fingerprint_of_aired otherAiredAt
    rw [packetEq, foreignEq]
    exact fingerprintAfter_ne_of_address apart different within alsoWithin

/-! ### A number comes round -/

def looseProbe : Probe := .ofList [.ok Reading.zero, .error .noConnection]

def worn : Node where
  address := .numbered 2
  duty := .sensor looseProbe
  ring := Ring.empty 0
  sequence := 255
  queue := Queue.new 1

def polling : Node where
  address := .numbered 1
  duty := .controller
  ring := Ring.empty 0
  queue := Queue.new 1

def question : Errand := { dest := .numbered 2, meshSize := 1, hops := 3 }

/-- The radio is busy, then it takes the fault that the second read gives; meanwhile the
memory is resized, and it takes a third reply. -/
def wornDay : List Occasion :=
  let request := Sending.compose question polling
  [ .replies { verdict := some .busy, now := 0 } request,
    .replies { verdict := none, now := 1 } request,
    .tends
      { worn with
        duty := .sensor { looseProbe with reads := 2 }
        ring := Ring.empty 3
        sequence := 0 },
    .replies { verdict := none, now := 2 } request ]

def pollingDay : List Occasion :=
  [.asks question (some (.driver "cold")), .asks question none]

private theorem collisionFree_worn :
    Sha256.CollisionFree (worn.digested 2 ++ polling.digested 1) :=
  Sha256.collisionFree_of_nodup (by decide +kernel)

theorem originations_numbered_worn :
    ∃ trials last more after, worn.meetAll? wornDay = some (trials, last) ∧
      polling.meetAll? pollingDay = some (more, after) ∧
      trials.map Trial.fault = [some .busy, none, none] ∧ last.sequence = 1 ∧
      (airedPackets trials).map Packet.fingerprint =
        [.generate worn.address 255, .generate worn.address 0] ∧
      (∀ first second, (airedPackets trials)[0]? = some first →
        (airedPackets trials)[1]? = some second → first.fingerprint ≠ second.fingerprint) ∧
      ∀ packet ∈ airedPackets trials, ∀ foreign ∈ airedPackets more,
        packet.fingerprint ≠ foreign.fingerprint := by
  obtain ⟨⟨trials, last⟩, met⟩ : ∃ result, worn.meetAll? wornDay = some result :=
    Option.isSome_iff_exists.mp (by decide +kernel)
  obtain ⟨⟨more, after⟩, otherMet⟩ : ∃ result, polling.meetAll? pollingDay = some result :=
    Option.isSome_iff_exists.mp (by decide +kernel)
  have faults : (worn.meetAll? wornDay).map (fun result =>
      (result.1.map Trial.fault, (airedPackets result.1).length)) =
        some ([some .busy, none, none], 2) := by
    decide +kernel
  have otherAired : (polling.meetAll? pollingDay).map (fun result =>
      (airedPackets result.1).length) = some 1 := by
    decide +kernel
  simp only [met, otherMet, Option.map_some, Option.some.injEq, Prod.mk.injEq] at faults otherAired
  have law := originations_numbered met
  simp only [faults.2] at law
  obtain ⟨_, _, airedEq, _, sequenceEq, near, foreign⟩ := law
  refine ⟨trials, last, more, after, met, otherMet, faults.1, sequenceEq, airedEq, ?_, ?_⟩
  · intro first second firstAired secondAired
    exact near (collisionFree_worn.mono (List.subset_append_left _ _)) 0 1 first second
      firstAired secondAired (by decide) (by decide)
  · refine foreign polling after pollingDay more otherMet (by decide) ?_
    rw [otherAired]
    exact collisionFree_worn

end Node

end FloodMesh
