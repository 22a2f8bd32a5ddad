/-
What waits on the air.

A medium is seen here through four views: how many stations it has, which of
them are linked, what waits at each, and what each has sent. The lemmas say
what every operation does to these views, for limited and unlimited inboxes,
so that arguments about a whole mesh need not look into stations.
-/

import FloodMesh.Mesh
import FloodMesh.Proofs.Course

namespace FloodMesh

namespace Medium

def waitingAt (medium : Medium) (index : Nat) : List Bytes :=
  ((medium.stations[index]?).map fun station => station.inbox.frames).getD []

def waiting (medium : Medium) : List Bytes :=
  (List.range medium.stations.length).flatMap medium.waitingAt

def Unlimited (medium : Medium) : Prop :=
  ∀ station ∈ medium.stations, station.inbox.limits = none

/-! ### Links -/

def Symmetric (medium : Medium) : Prop :=
  ∀ first second, medium.linked first second = medium.linked second first

theorem symmetric_ofCount (count : Nat) : (ofCount count).Symmetric := fun _ _ => rfl

private theorem symmetric_iff {medium : Medium} :
    medium.Symmetric ↔
      ∀ first second, (first, second) ∈ medium.links ↔ (second, first) ∈ medium.links := by
  refine forall_congr' fun first => forall_congr' fun second => ?_
  unfold linked
  rw [Bool.eq_iff_iff, List.contains_iff_mem, List.contains_iff_mem]

theorem Symmetric.link {medium : Medium} (symmetric : medium.Symmetric) (first second : Nat) :
    (medium.link first second).Symmetric := by
  unfold Medium.link
  split
  · exact symmetric
  · rw [symmetric_iff] at symmetric ⊢
    intro one other
    simp only [List.mem_cons, Prod.mk.injEq, symmetric one other]
    tauto

theorem Symmetric.unlink {medium : Medium} (symmetric : medium.Symmetric) (first second : Nat) :
    (medium.unlink first second).Symmetric := by
  rw [symmetric_iff] at symmetric ⊢
  intro one other
  simp only [Medium.unlink, List.mem_filter, symmetric one other, ne_eq, Prod.mk.injEq,
    Bool.and_eq_true, decide_eq_true_eq]
  tauto

theorem Symmetric.chain {medium : Medium} (symmetric : medium.Symmetric)
    (stations : List Nat) : (medium.chain stations).Symmetric := by
  unfold Medium.chain
  induction stations.zip stations.tail generalizing medium with
  | nil => exact symmetric
  | cons pair rest ih => exact ih (symmetric.link pair.1 pair.2)

/-! ### Changing one station -/

theorem getElem?_change (medium : Medium) (index other : Nat) (edit : Station → Station) :
    (medium.change index edit).stations[other]? =
      if other = index then (medium.stations[other]?).map edit else medium.stations[other]? := by
  unfold change
  rw [List.getElem?_modify]
  by_cases same : other = index
  · rw [if_pos same, same]
    cases medium.stations[index]? <;> simp
  · rw [if_neg same]
    have different : index ≠ other := fun equal => same equal.symm
    cases medium.stations[other]? <;> simp [different]

theorem length_change (medium : Medium) (index : Nat) (edit : Station → Station) :
    (medium.change index edit).stations.length = medium.stations.length := by
  unfold change
  exact List.length_modify ..

/-! ### Setting what a radio answers -/

@[simp] theorem waitingAt_setVerdict (medium : Medium) (index other : Nat) (verdict : Verdict) :
    (medium.setVerdict index verdict).waitingAt other = medium.waitingAt other := by
  unfold waitingAt setVerdict
  rw [getElem?_change]
  by_cases same : other = index
  · rw [if_pos same]
    cases medium.stations[other]? <;> rfl
  · rw [if_neg same]

@[simp] theorem transmissions_setVerdict (medium : Medium) (index other : Nat)
    (verdict : Verdict) :
    (medium.setVerdict index verdict).transmissions other = medium.transmissions other := by
  unfold transmissions setVerdict
  rw [getElem?_change]
  by_cases same : other = index
  · rw [if_pos same]
    cases medium.stations[other]? <;> rfl
  · rw [if_neg same]

@[simp] theorem length_setVerdict (medium : Medium) (index : Nat) (verdict : Verdict) :
    (medium.setVerdict index verdict).stations.length = medium.stations.length :=
  length_change ..

theorem unlimited_setVerdict {medium : Medium} (index : Nat) (verdict : Verdict)
    (free : medium.Unlimited) : (medium.setVerdict index verdict).Unlimited := by
  intro changed member
  obtain ⟨other, found⟩ := List.mem_iff_getElem?.mp member
  unfold setVerdict at found
  rw [getElem?_change] at found
  by_cases same : other = index
  · rw [if_pos same] at found
    obtain ⟨station, present, edited⟩ := Option.map_eq_some_iff.mp found
    subst edited
    exact free station (List.mem_of_getElem? present)
  · rw [if_neg same] at found
    exact free changed (List.mem_of_getElem? found)

theorem verdictOf_setVerdict {medium : Medium} {index : Nat} (verdict : Verdict)
    (attached : index < medium.stations.length) :
    (medium.setVerdict index verdict).verdictOf index = verdict := by
  unfold verdictOf setVerdict
  rw [getElem?_change, if_pos rfl, List.getElem?_eq_getElem attached]
  rfl

/-! ### Taking a frame -/

structure Took (before after : Medium) (index : Nat) (rest : List Bytes) : Prop where
  waitingAt : ∀ other,
    after.waitingAt other = if other = index then rest else before.waitingAt other
  transmissions : ∀ other, after.transmissions other = before.transmissions other
  linked : after.linked = before.linked
  length : after.stations.length = before.stations.length
  unlimited : before.Unlimited → after.Unlimited

private theorem took_of_change {medium : Medium} {index : Nat} {station : Station}
    (present : medium.stations[index]? = some station) (rest : List Bytes) :
    Took medium
      (medium.change index fun changed =>
        { changed with inbox := { station.inbox with frames := rest } }) index rest where
  waitingAt other := by
    unfold Medium.waitingAt
    rw [getElem?_change]
    by_cases same : other = index
    · rw [if_pos same, if_pos same, same, present]
      rfl
    · rw [if_neg same, if_neg same]
  transmissions other := by
    unfold Medium.transmissions
    rw [getElem?_change]
    by_cases same : other = index
    · rw [if_pos same, same, present]
      rfl
    · rw [if_neg same]
  linked := rfl
  length := length_change ..
  unlimited := by
    intro free changed member
    obtain ⟨other, found⟩ := List.mem_iff_getElem?.mp member
    rw [getElem?_change] at found
    by_cases same : other = index
    · rw [if_pos same, same, present] at found
      cases found
      exact free station (List.mem_of_getElem? present)
    · rw [if_neg same] at found
      exact free changed (List.mem_of_getElem? found)

theorem verdictOf_change {medium : Medium} {edit : Station → Station} (index other : Nat)
    (keeps : ∀ station, (edit station).verdict = station.verdict) :
    (medium.change index edit).verdictOf other = medium.verdictOf other := by
  unfold verdictOf
  rw [getElem?_change]
  by_cases same : other = index
  · rw [if_pos same]
    cases medium.stations[other]? with
    | none => rfl
    | some station => exact keeps station
  · rw [if_neg same]

theorem waitingAt_of_beyond {medium : Medium} {station : Nat}
    (beyond : medium.stations.length ≤ station) : medium.waitingAt station = [] := by
  rw [waitingAt, List.getElem?_eq_none beyond]
  rfl

/-- A station takes its oldest frame if it has one. -/
theorem receive?_cases (medium : Medium) (station room : Nat) :
    (medium.waitingAt station = [] ∧ medium.receive? station room = none) ∨
      ∃ first rest later, medium.waitingAt station = first :: rest ∧
        medium.receive? station room = some (first.take room, later) ∧
        Took medium later station rest ∧
        ∀ other, later.verdictOf other = medium.verdictOf other := by
  unfold receive? waitingAt
  cases present : medium.stations[station]? with
  | none => exact .inl ⟨rfl, rfl⟩
  | some held =>
      cases waits : held.inbox.frames with
      | nil => exact .inl ⟨waits, by simp [Inbox.take?, waits]⟩
      | cons first rest =>
          refine .inr ⟨first, rest, _, waits, ?_, took_of_change present rest,
            fun other => verdictOf_change station other fun _ => rfl⟩
          simp [Inbox.take?, waits]

/-- What it means that a station takes a frame. -/
theorem receive?_eq_some {medium later : Medium} {index room : Nat} {frame : Bytes}
    (taken : medium.receive? index room = some (frame, later)) :
    ∃ first rest, medium.waitingAt index = first :: rest ∧ frame = first.take room ∧
      index < medium.stations.length ∧ Took medium later index rest ∧
        later.verdictOf index = medium.verdictOf index := by
  rcases receive?_cases medium index room with
    ⟨-, nothing⟩ | ⟨first, rest, _, waits, received, took, keeps⟩
  · rw [nothing] at taken
    cases taken
  · rw [received] at taken
    cases taken
    refine ⟨first, rest, waits, rfl, Nat.lt_of_not_le fun beyond => ?_, took, keeps index⟩
    rw [waitingAt_of_beyond beyond] at waits
    cases waits

/-! ### Broadcasting -/

theorem getElem?_broadcast (medium : Medium) (sender index : Nat) (frame : Bytes) :
    (medium.broadcast sender frame).stations[index]? =
      (medium.stations[index]?).map fun station =>
        if index = sender then { station with sent := station.sent ++ [frame] }
        else if medium.linked sender index then station.arrive frame
        else station := by
  unfold broadcast
  rw [List.getElem?_mapIdx]

@[simp] theorem length_broadcast (medium : Medium) (sender : Nat) (frame : Bytes) :
    (medium.broadcast sender frame).stations.length = medium.stations.length := by
  unfold broadcast
  exact List.length_mapIdx ..

@[simp] theorem linked_broadcast (medium : Medium) (sender : Nat) (frame : Bytes) :
    (medium.broadcast sender frame).linked = medium.linked := rfl

theorem unlimited_broadcast {medium : Medium} (sender : Nat) (frame : Bytes)
    (free : medium.Unlimited) : (medium.broadcast sender frame).Unlimited := by
  intro changed member
  obtain ⟨index, found⟩ := List.mem_iff_getElem?.mp member
  rw [getElem?_broadcast] at found
  obtain ⟨station, present, edited⟩ := Option.map_eq_some_iff.mp found
  have before := free station (List.mem_of_getElem? present)
  subst edited
  split
  · exact before
  · split
    · exact before
    · exact before

theorem transmissions_broadcast {medium : Medium} {sender : Nat} (frame : Bytes) (index : Nat)
    (attached : sender < medium.stations.length) :
    (medium.broadcast sender frame).transmissions index =
      if index = sender then medium.transmissions index ++ [frame]
      else medium.transmissions index := by
  unfold transmissions
  rw [getElem?_broadcast]
  by_cases same : index = sender
  · subst same
    rw [List.getElem?_eq_getElem attached]
    simp
  · rw [if_neg same]
    cases medium.stations[index]? with
    | none => rfl
    | some station =>
        simp only [Option.map_some, if_neg same, Option.getD_some]
        split <;> rfl

/-- At an unlimited inbox a frame from a linked station comes to lie behind the
others. -/
theorem waitingAt_broadcast {medium : Medium} (free : medium.Unlimited) (sender : Nat)
    (frame : Bytes) {index : Nat} (attached : index < medium.stations.length) :
    (medium.broadcast sender frame).waitingAt index =
      if index ≠ sender ∧ medium.linked sender index = true then
        medium.waitingAt index ++ [frame]
      else medium.waitingAt index := by
  have present := List.getElem?_eq_getElem attached
  have limitless := free _ (List.mem_of_getElem? present)
  unfold waitingAt
  rw [getElem?_broadcast, present]
  by_cases same : index = sender
  · simp [same]
  · by_cases hears : medium.linked sender index = true
    · simp [same, hears, Station.arrive, Station.store, Station.ring, Inbox.arrive,
        Inbox.keptForArrival, Inbox.cut, limitless]
    · simp [same, hears]

end Medium

/-! ### A node's effects on the air -/

/-- Only what was sent matters to the medium. -/
theorem Mesh.carry_eq (medium : Medium) (sender : Nat) (effects : List Effect) :
    Mesh.carry medium sender effects =
      (sentFrames effects).foldl (fun medium frame => medium.broadcast sender frame) medium := by
  unfold Mesh.carry sentFrames
  induction effects generalizing medium with
  | nil => rfl
  | cons effect rest ih =>
      cases effect <;> exact ih _

/-! ### One move on the air -/

namespace Medium

def reaches (medium : Medium) (sender index : Nat) : Bool :=
  index ≠ sender && medium.linked sender index

/-- What waits at a station once the taker has taken its oldest frame. -/
def leftAt (medium : Medium) (taker : Option Nat) (index : Nat) : List Bytes :=
  if taker = some index then (medium.waitingAt index).tail else medium.waitingAt index

/-- One station may have taken its oldest frame, the sender has put frames on
the air, and all else is as it was. -/
structure Moved (before after : Medium) (taker : Option Nat) (sender : Nat)
    (frames : List Bytes) : Prop where
  waitingAt : ∀ index < before.stations.length,
    after.waitingAt index =
      before.leftAt taker index ++ if before.reaches sender index then frames else []
  transmissions : ∀ index,
    after.transmissions index =
      before.transmissions index ++ if index = sender then frames else []
  linked : after.linked = before.linked
  length : after.stations.length = before.stations.length
  unlimited : after.Unlimited

theorem Took.moved {before after : Medium} {index : Nat} {first : Bytes} {rest : List Bytes}
    (took : Took before after index rest) (waits : before.waitingAt index = first :: rest)
    (free : before.Unlimited) (sender : Nat) : Moved before after (some index) sender [] where
  waitingAt other _ := by
    rw [took.waitingAt]
    unfold leftAt
    by_cases same : other = index
    · subst same
      simp [waits]
    · have different : some index ≠ some other := fun equal => same (Option.some.inj equal).symm
      simp [same, different]
  transmissions other := by
    rw [took.transmissions]
    simp
  linked := took.linked
  length := took.length
  unlimited := took.unlimited free

theorem moved_setVerdict {medium : Medium} (free : medium.Unlimited) (index sender : Nat)
    (verdict : Verdict) : Moved medium (medium.setVerdict index verdict) none sender [] where
  waitingAt other _ := by simp [leftAt]
  transmissions other := by simp
  linked := rfl
  length := length_setVerdict ..
  unlimited := unlimited_setVerdict index verdict free

private theorem Moved.broadcast {before after : Medium} {taker : Option Nat} {sender : Nat}
    {frames : List Bytes} (moved : Moved before after taker sender frames)
    (attached : sender < before.stations.length) (frame : Bytes) :
    Moved before (after.broadcast sender frame) taker sender (frames ++ [frame]) where
  waitingAt index within := by
    rw [waitingAt_broadcast moved.unlimited sender frame (by rwa [moved.length]),
      moved.waitingAt index within, moved.linked]
    by_cases heard : index ≠ sender ∧ before.linked sender index = true
    · rw [if_pos heard]
      simp [reaches, heard.1, heard.2]
    · rw [if_neg heard]
      have missed : before.reaches sender index = false := by
        cases reached : before.reaches sender index with
        | false => rfl
        | true => exact absurd (by simpa [reaches] using reached) heard
      simp [missed]
  transmissions index := by
    rw [transmissions_broadcast frame index (by rwa [moved.length]), moved.transmissions]
    by_cases own : index = sender <;> simp [own]
  linked := by rw [linked_broadcast, moved.linked]
  length := by rw [length_broadcast, moved.length]
  unlimited := unlimited_broadcast sender frame moved.unlimited

private theorem Moved.foldl {before : Medium} {taker : Option Nat} {sender : Nat}
    (attached : sender < before.stations.length) {after : Medium} {frames : List Bytes}
    (moved : Moved before after taker sender frames) (more : List Bytes) :
    Moved before (more.foldl (fun medium frame => medium.broadcast sender frame) after) taker
      sender (frames ++ more) := by
  induction more generalizing after frames with
  | nil =>
      rw [List.append_nil]
      exact moved
  | cons frame rest ih =>
      have complete := ih (moved.broadcast attached frame)
      rw [List.append_assoc] at complete
      exact complete

/-- What a node sends while it works joins what was moved before. -/
theorem Moved.carry {before after : Medium} {taker : Option Nat} {sender : Nat}
    (moved : Moved before after taker sender []) {effects : List Effect}
    (possible : sentFrames effects = [] ∨ sender < before.stations.length) :
    Moved before (Mesh.carry after sender effects) taker sender (sentFrames effects) := by
  rw [Mesh.carry_eq]
  rcases possible with silent | attached
  · rw [silent]
    exact moved
  · exact moved.foldl attached (sentFrames effects)

end Medium

end FloodMesh
