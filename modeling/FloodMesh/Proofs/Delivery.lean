/-
A medium neither loses nor doubles a frame, and nobody hears himself.

Stations are attached, linked and parted, radios fail and recover, frames are sent,
injected and taken, in any order. Whether two stations hear each other is what was last
said about the two, and what a radio answers is what was last set. Each operation puts at
most one frame behind what waits at a station, or takes the oldest one away, so what was
taken, followed by what still waits, is what arrived.
-/

import FloodMesh.Proofs.Air
import Mathlib

namespace FloodMesh

namespace Medium

/-! ### Operations -/

inductive Operation
  | attach
  | link (first second : Nat)
  | unlink (first second : Nat)
  | chain (stations : List Nat)
  | setVerdict (station : Nat) (verdict : Verdict)
  | send (station : Nat) (frame : Bytes)
  | inject (station : Nat) (frame : Bytes)
  | receive (station room : Nat)

namespace Operation

def named : Operation → List Nat
  | .attach => []
  | .link first second => [first, second]
  | .unlink first second => [first, second]
  | .chain stations => stations
  | .setVerdict station _ => [station]
  | .send station _ => [station]
  | .inject station _ => [station]
  | .receive station _ => [station]

def added : Operation → Nat
  | .attach => 1
  | _ => 0

/-- What it says about whether two stations hear each other, if it says anything. -/
def joins? (one other : Nat) : Operation → Option Bool
  | .link first second =>
      if one ≠ other ∧ ((first, second) = (one, other) ∨ (first, second) = (other, one)) then
        some true
      else none
  | .unlink first second =>
      if (first, second) = (one, other) ∨ (first, second) = (other, one) then some false
      else none
  | .chain stations =>
      if one ≠ other ∧ ([one, other] <:+: stations ∨ [other, one] <:+: stations) then some true
      else none
  | _ => none

def verdict? (station : Nat) : Operation → Option Verdict
  | .setVerdict other verdict => if other = station then some verdict else none
  | _ => none

end Operation

/-- A station is known by the number that it was given when it was attached, so nobody
names one that is not there. -/
def sensible (attached : Nat) : List Operation → Bool
  | [] => true
  | operation :: rest =>
      operation.named.all (fun station => decide (station < attached)) &&
        sensible (attached + operation.added) rest

private theorem sensible_cons {attached : Nat} {operation : Operation} {rest : List Operation}
    (sense : sensible attached (operation :: rest) = true) :
    (∀ station ∈ operation.named, station < attached) ∧
      sensible (attached + operation.added) rest = true := by
  simpa [sensible] using sense

def latest {α : Type} (tell? : Operation → Option α) (operations : List Operation) : Option α :=
  (operations.filterMap tell?).getLast?

def joined (operations : List Operation) (one other : Nat) : Bool :=
  (latest (Operation.joins? one other) operations).getD false

def answering (operations : List Operation) (station : Nat) : Verdict :=
  (latest (Operation.verdict? station) operations).getD none

inductive Answer
  | attached (station : Nat)
  | done
  | sent (verdict : Verdict)
  | received (frame : Option Bytes)

def perform (medium : Medium) : Operation → Answer × Medium
  | .attach => (.attached medium.stations.length, medium.attach {})
  | .link first second => (.done, medium.link first second)
  | .unlink first second => (.done, medium.unlink first second)
  | .chain stations => (.done, medium.chain stations)
  | .setVerdict station verdict => (.done, medium.setVerdict station verdict)
  | .send station frame =>
      let (verdict, later) := medium.transmit station frame
      (.sent verdict, later)
  | .inject station frame => (.done, medium.inject station frame)
  | .receive station room =>
      match medium.receive? station room with
      | some (frame, later) => (.received (some frame), later)
      | none => (.received none, medium)

def performAll (medium : Medium) : List Operation → Medium
  | [] => medium
  | operation :: rest => (medium.perform operation).2.performAll rest

structure Taking where
  room : Nat
  frame : Bytes

structure Passage where
  before : Medium
  operation : Operation

namespace Passage

variable (passage : Passage)

def answer : Answer := (passage.before.perform passage.operation).1

def after : Medium := (passage.before.perform passage.operation).2

/-- The frame that arrives at a station: one that is injected there, or that a station
linked to it at this moment sends with success. -/
def arrival? (station : Nat) : Option Bytes :=
  match passage.operation, passage.answer with
  | .inject other frame, _ => if other = station then some frame else none
  | .send sender frame, .sent none =>
      if passage.before.linked sender station then some frame else none
  | _, _ => none

def sending? (station : Nat) : Option Bytes :=
  match passage.operation, passage.answer with
  | .send sender frame, .sent none => if sender = station then some frame else none
  | _, _ => none

def taking? (station : Nat) : Option Taking :=
  match passage.operation, passage.answer with
  | .receive other room, .received (some frame) =>
      if other = station then some { room, frame } else none
  | _, _ => none

end Passage

def history (medium : Medium) : List Operation → List Passage
  | [] => []
  | operation :: rest =>
      { before := medium, operation } :: (medium.perform operation).2.history rest

variable {medium : Medium} {operation : Operation}

/-! ### Who hears whom -/

private theorem latest_concat {α : Type} (tell? : Operation → Option α)
    (operations : List Operation)
    (operation : Operation) :
    latest tell? (operations ++ [operation]) =
      (tell? operation).or (latest tell? operations) := by
  unfold latest
  rw [List.filterMap_append, List.getLast?_append]
  cases told : tell? operation <;> simp [told]

private theorem joins?_comm (one other : Nat) (operation : Operation) :
    operation.joins? one other = operation.joins? other one := by
  cases operation with
  | link first second =>
      simp only [Operation.joins?, ne_comm (a := one), Or.comm]
  | unlink first second => simp only [Operation.joins?, Or.comm]
  | chain stations => simp only [Operation.joins?, ne_comm (a := one), Or.comm]
  | attach | setVerdict | send | inject | receive => rfl

private theorem linked_link_iff (symmetric : medium.Symmetric) (first second one other : Nat) :
    (medium.link first second).linked one other = true ↔
      (one ≠ other ∧ ((first, second) = (one, other) ∨ (first, second) = (other, one))) ∨
        medium.linked one other = true := by
  unfold link
  split
  · rename_i idle
    refine ⟨.inr, fun joined => joined.elim (fun told => ?_) id⟩
    rcases told with ⟨apart, same | same⟩ <;> cases same
    · exact idle.resolve_left apart
    · exact (symmetric _ _).trans (idle.resolve_left fun equal => apart equal.symm)
  · rename_i fresh
    have apart : first ≠ second := fun equal => fresh (.inl equal)
    simp only [linked, List.contains_iff_mem, List.mem_cons, Prod.mk.injEq]
    constructor
    · rintro (⟨rfl, rfl⟩ | ⟨rfl, rfl⟩ | there)
      · exact .inl ⟨apart, .inl ⟨rfl, rfl⟩⟩
      · exact .inl ⟨apart.symm, .inr ⟨rfl, rfl⟩⟩
      · exact .inr there
    · rintro (⟨-, ⟨rfl, rfl⟩ | ⟨rfl, rfl⟩⟩ | there)
      · exact .inl ⟨rfl, rfl⟩
      · exact .inr (.inl ⟨rfl, rfl⟩)
      · exact .inr (.inr there)

private theorem linked_unlink_iff (first second one other : Nat) :
    (medium.unlink first second).linked one other = true ↔
      ¬ ((first, second) = (one, other) ∨ (first, second) = (other, one)) ∧
        medium.linked one other = true := by
  simp only [linked, unlink, List.contains_iff_mem, List.mem_filter, Prod.mk.injEq, ne_eq,
    Bool.and_eq_true, decide_eq_true_eq]
  constructor
  · rintro ⟨there, straight, swapped⟩
    refine ⟨?_, there⟩
    rintro (⟨rfl, rfl⟩ | ⟨rfl, rfl⟩)
    · exact straight ⟨rfl, rfl⟩
    · exact swapped ⟨rfl, rfl⟩
  · rintro ⟨untold, there⟩
    refine ⟨there, ?_, ?_⟩
    · rintro ⟨rfl, rfl⟩
      exact untold (.inl ⟨rfl, rfl⟩)
    · rintro ⟨rfl, rfl⟩
      exact untold (.inr ⟨rfl, rfl⟩)

private theorem mem_zip_tail_iff {stations : List Nat} {one other : Nat} :
    (one, other) ∈ stations.zip stations.tail ↔ [one, other] <:+: stations := by
  induction stations with
  | nil => simp
  | cons first rest ih =>
      rw [List.infix_cons_iff, ← ih]
      cases rest with
      | nil => simp
      | cons second others => simp

private theorem linked_foldl_link_iff (symmetric : medium.Symmetric) (pairs : List (Nat × Nat))
    (one other : Nat) :
    (pairs.foldl (fun medium pair => medium.link pair.1 pair.2) medium).linked one other = true ↔
      (one ≠ other ∧ ((one, other) ∈ pairs ∨ (other, one) ∈ pairs)) ∨
        medium.linked one other = true := by
  induction pairs generalizing medium with
  | nil => simp
  | cons pair rest ih =>
      rw [List.foldl_cons, ih (symmetric.link pair.1 pair.2), linked_link_iff symmetric,
        List.mem_cons, List.mem_cons, eq_comm (a := (one, other)), eq_comm (a := (other, one))]
      tauto

private theorem linked_chain_iff (symmetric : medium.Symmetric) (stations : List Nat)
    (one other : Nat) :
    (medium.chain stations).linked one other = true ↔
      (one ≠ other ∧ ([one, other] <:+: stations ∨ [other, one] <:+: stations)) ∨
        medium.linked one other = true := by
  rw [chain, linked_foldl_link_iff symmetric, mem_zip_tail_iff, mem_zip_tail_iff]

private theorem eq_getD_of_joining {before after : Bool} {told : Prop} [Decidable told]
    (joins : after = true ↔ told ∨ before = true) :
    after = (if told then some true else none).getD before := by
  by_cases holds : told
  · rw [if_pos holds]
    exact joins.mpr (.inl holds)
  · rw [if_neg holds, Bool.eq_iff_iff]
    exact joins.trans (or_iff_right holds)

private theorem eq_getD_of_parting {before after : Bool} {told : Prop} [Decidable told]
    (parts : after = true ↔ ¬ told ∧ before = true) :
    after = (if told then some false else none).getD before := by
  by_cases holds : told
  · rw [if_pos holds]
    exact eq_false_of_ne_true fun joined => (parts.mp joined).1 holds
  · rw [if_neg holds, Bool.eq_iff_iff]
    exact parts.trans (and_iff_right holds)

private theorem linked_perform (symmetric : medium.Symmetric) (operation : Operation)
    (one other : Nat) :
    (medium.perform operation).2.linked one other =
      (operation.joins? one other).getD (medium.linked one other) := by
  cases operation with
  | link first second => exact eq_getD_of_joining (linked_link_iff symmetric first second one other)
  | unlink first second => exact eq_getD_of_parting (linked_unlink_iff first second one other)
  | chain stations => exact eq_getD_of_joining (linked_chain_iff symmetric stations one other)
  | send station frame =>
      simp only [perform, transmit]
      cases medium.verdictOf station <;> rfl
  | receive station room =>
      simp only [perform]
      rcases receive?_cases medium station room with
        ⟨-, nothing⟩ | ⟨_, _, _, -, received, took, -⟩
      · rw [nothing]
        rfl
      · rw [received]
        exact congrFun (congrFun took.linked one) other
  | attach | setVerdict | inject => rfl

/-! ### What was last said -/

private theorem joined_comm (operations : List Operation) (one other : Nat) :
    joined operations one other = joined operations other one := by
  have same : Operation.joins? one other = Operation.joins? other one :=
    funext (joins?_comm one other)
  rw [joined, joined, same]

private theorem joins?_eq_some_true {one other : Nat}
    (joins : operation.joins? one other = some true) :
    one ≠ other ∧ one ∈ operation.named := by
  cases operation with
  | link first second =>
      simp only [Operation.joins?] at joins
      split at joins
      · rename_i told
        refine ⟨told.1, ?_⟩
        rcases told.2 with same | same <;> cases same <;> simp [Operation.named]
      · cases joins
  | unlink first second =>
      simp only [Operation.joins?] at joins
      split at joins <;> cases joins
  | chain stations =>
      simp only [Operation.joins?] at joins
      split at joins
      · rename_i told
        refine ⟨told.1, ?_⟩
        rcases told.2 with inside | inside
        · exact inside.subset (by simp)
        · exact inside.subset (by simp)
      · cases joins
  | attach | setVerdict | send | inject | receive => cases joins

private theorem exists_of_latest {α : Type} {tell? : Operation → Option α}
    {operations : List Operation}
    {told : α} (last : latest tell? operations = some told) :
    ∃ operation ∈ operations, tell? operation = some told :=
  List.mem_filterMap.mp (List.mem_of_getLast? last)

private theorem joined_eq_true {operations : List Operation} {one other : Nat}
    (hears : joined operations one other = true) :
    one ≠ other ∧ ∃ operation ∈ operations, one ∈ operation.named := by
  unfold joined at hears
  cases last : latest (Operation.joins? one other) operations with
  | none =>
      rw [last] at hears
      cases hears
  | some told =>
      rw [last, Option.getD_some] at hears
      subst hears
      obtain ⟨operation, among, joins⟩ := exists_of_latest last
      obtain ⟨apart, named⟩ := joins?_eq_some_true joins
      exact ⟨apart, operation, among, named⟩

private theorem mem_named_of_verdict? {station : Nat} {verdict : Verdict}
    (tells : operation.verdict? station = some verdict) : station ∈ operation.named := by
  cases operation with
  | setVerdict other answer =>
      simp only [Operation.verdict?] at tells
      split at tells
      · rename_i same
        exact List.mem_singleton.mpr same.symm
      · cases tells
  | attach | link | unlink | chain | send | inject | receive => cases tells

/-! ### What an operation does to the stations -/

@[simp] theorem stations_link (medium : Medium) (first second : Nat) :
    (medium.link first second).stations = medium.stations := by
  unfold link
  split <;> rfl

@[simp] theorem stations_unlink (medium : Medium) (first second : Nat) :
    (medium.unlink first second).stations = medium.stations := rfl

@[simp] theorem stations_chain (medium : Medium) (stations : List Nat) :
    (medium.chain stations).stations = medium.stations := by
  unfold chain
  induction stations.zip stations.tail generalizing medium with
  | nil => rfl
  | cons pair rest ih => rw [List.foldl_cons, ih, stations_link]

private theorem getElem?_attach (medium : Medium) (station : Nat) :
    (medium.attach {}).stations[station]? =
      if station = medium.stations.length then some {} else medium.stations[station]? := by
  unfold attach
  rw [List.getElem?_append]
  split
  · rename_i within
    rw [if_neg (by omega)]
  · rename_i beyond
    split
    · rename_i same
      rw [same, Nat.sub_self]
      rfl
    · rw [List.getElem?_eq_none (by simp; omega), List.getElem?_eq_none (by omega)]

private theorem length_perform (medium : Medium) (operation : Operation) :
    (medium.perform operation).2.stations.length = medium.stations.length + operation.added := by
  cases operation with
  | attach => exact List.length_append
  | link | unlink | chain => simp [perform, Operation.added]
  | setVerdict station verdict => exact length_setVerdict medium station verdict
  | send station frame =>
      simp only [perform, transmit]
      cases medium.verdictOf station with
      | none => exact length_broadcast medium station frame
      | some fault => rfl
  | inject station frame => exact length_change medium station _
  | receive station room =>
      simp only [perform]
      rcases receive?_cases medium station room with
        ⟨-, nothing⟩ | ⟨_, _, _, -, received, took, -⟩
      · rw [nothing]
        rfl
      · rw [received]
        exact took.length

/-! ### What waits at a station -/

/-- A new station has nothing yet, like one that is not there. -/
theorem getD_attach {view : Station → List Bytes} (empty : view {} = []) (medium : Medium)
    (station : Nat) :
    (((medium.attach {}).stations[station]?).map view).getD [] =
      ((medium.stations[station]?).map view).getD [] := by
  rw [getElem?_attach]
  split
  · rename_i new
    rw [new, List.getElem?_eq_none (Nat.le_refl _), Option.map_some, empty]
    rfl
  · rfl

private theorem waitingAt_inject (free : medium.Unlimited) {station : Nat}
    (attached : station < medium.stations.length) (frame : Bytes) (other : Nat) :
    (medium.inject station frame).waitingAt other =
      medium.waitingAt other ++ if station = other then [frame] else [] := by
  unfold waitingAt inject
  rw [getElem?_change]
  by_cases same : station = other
  · subst same
    have present := List.getElem?_eq_getElem attached
    have limitless := free _ (List.mem_of_getElem? present)
    simp [present, Station.arrive, Station.store, Station.ring, Inbox.arrive,
      Inbox.keptForArrival, Inbox.cut, limitless]
  · rw [if_neg fun equal => same equal.symm, if_neg same, List.append_nil]

/-- What was taken is what arrived first, each frame cut to the buffer that it was taken
into, and what arrived after that waits. -/
def Accounts (arrived : List Bytes) (taken : List Taking) (waits : List Bytes) : Prop :=
  ∃ gone, arrived = gone ++ waits ∧
    List.Forall₂ (fun frame taking => taking.frame = frame.take taking.room) gone taken

private theorem Accounts.refl (waits : List Bytes) : Accounts waits [] waits := ⟨[], rfl, .nil⟩

private theorem Accounts.append {arrived waits more later : List Bytes}
    {taken moreTaken : List Taking}
    (first : Accounts arrived taken waits) (second : Accounts (waits ++ more) moreTaken later) :
    Accounts (arrived ++ more) (taken ++ moreTaken) later := by
  obtain ⟨gone, rfl, cut⟩ := first
  obtain ⟨moreGone, split, moreCut⟩ := second
  refine ⟨gone ++ moreGone, ?_, List.rel_append cut moreCut⟩
  rw [List.append_assoc, split, List.append_assoc]

/-- Links lead to other stations, and only to those that are attached. -/
def Proper (medium : Medium) : Prop :=
  ∀ one other, medium.linked one other = true → one ≠ other ∧ other < medium.stations.length

private theorem waitingAt_broadcast_of_proper (free : medium.Unlimited) (proper : medium.Proper)
    (sender : Nat) (frame : Bytes) (station : Nat) :
    (medium.broadcast sender frame).waitingAt station =
      medium.waitingAt station ++ if medium.linked sender station then [frame] else [] := by
  by_cases hears : medium.linked sender station = true
  · obtain ⟨apart, attached⟩ := proper sender station hears
    rw [waitingAt_broadcast free sender frame attached, if_pos hears,
      if_pos ⟨apart.symm, hears⟩]
  · rw [if_neg hears, List.append_nil]
    by_cases attached : station < medium.stations.length
    · rw [waitingAt_broadcast free sender frame attached, if_neg fun both => hears both.2]
    · have beyond : medium.stations.length ≤ station := Nat.le_of_not_lt attached
      rw [waitingAt_of_beyond beyond, waitingAt_of_beyond (by rwa [length_broadcast])]

namespace Passage

/-- What waited at a station and then what arrives is what is taken and then what waits. -/
def Balanced (passage : Passage) (station : Nat) : Prop :=
  Accounts (passage.before.waitingAt station ++ (passage.arrival? station).toList)
    (passage.taking? station).toList (passage.after.waitingAt station)

private theorem balanced_of_same {passage : Passage} {station : Nat}
    (none_arrives : passage.arrival? station = none) (none_taken : passage.taking? station = none)
    (same : passage.after.waitingAt station = passage.before.waitingAt station) :
    passage.Balanced station := by
  rw [Balanced, none_arrives, none_taken, same, Option.toList_none, List.append_nil]
  exact .refl _

private theorem balanced_of_arrival {passage : Passage} {station : Nat}
    (none_taken : passage.taking? station = none)
    (joins : passage.after.waitingAt station =
      passage.before.waitingAt station ++ (passage.arrival? station).toList) :
    passage.Balanced station := by
  rw [Balanced, none_taken, joins]
  exact .refl _

private theorem balanced_send (free : medium.Unlimited) (proper : medium.Proper) (sender : Nat)
    (frame : Bytes) (station : Nat) : (mk medium (.send sender frame)).Balanced station := by
  cases verdict : medium.verdictOf sender with
  | some fault =>
      refine balanced_of_same ?_ rfl ?_
      · simp [arrival?, answer, perform, transmit, verdict]
      · simp [after, perform, transmit, verdict]
  | none =>
      refine balanced_of_arrival rfl ?_
      simp only [after, arrival?, answer, perform, transmit, verdict,
        waitingAt_broadcast_of_proper free proper]
      by_cases hears : medium.linked sender station = true <;> simp [hears]

private theorem balanced_receive (medium : Medium) (other room station : Nat) :
    (mk medium (.receive other room)).Balanced station := by
  rcases receive?_cases medium other room with
    ⟨-, nothing⟩ | ⟨first, rest, later, waits, received, took, -⟩
  · refine balanced_of_same rfl ?_ ?_
    · simp [taking?, answer, perform, nothing]
    · simp [after, perform, nothing]
  · have left : (mk medium (.receive other room)).after.waitingAt station =
        if station = other then rest else medium.waitingAt station := by
      simp only [after, perform, received]
      exact took.waitingAt station
    by_cases own : station = other
    · subst own
      refine ⟨[first], ?_, ?_⟩
      · rw [left, if_pos rfl, waits]
        exact List.append_nil _
      · simp [taking?, answer, perform, received]
    · rw [if_neg own] at left
      refine balanced_of_same rfl ?_ left
      have different : other ≠ station := fun same => own same.symm
      simp [taking?, answer, perform, received, different]

private theorem balanced (free : medium.Unlimited) (proper : medium.Proper)
    (named : ∀ station ∈ operation.named, station < medium.stations.length) (station : Nat) :
    (mk medium operation).Balanced station := by
  cases operation with
  | attach => exact balanced_of_same rfl rfl (getD_attach rfl medium station)
  | link | chain =>
      refine balanced_of_same rfl rfl ?_
      simp [after, perform, waitingAt]
  | unlink first second => exact balanced_of_same rfl rfl rfl
  | setVerdict other verdict =>
      exact balanced_of_same rfl rfl (waitingAt_setVerdict medium other station verdict)
  | inject other frame =>
      have attached : other < medium.stations.length := named other List.mem_cons_self
      refine balanced_of_arrival rfl ?_
      simp only [after, perform, arrival?, waitingAt_inject free attached]
      by_cases own : other = station <;> simp [own]
  | send sender frame => exact balanced_send free proper sender frame station
  | receive other room => exact balanced_receive medium other room station

end Passage

/-! ### What a station has sent -/

private theorem transmissions_perform
    (named : ∀ station ∈ operation.named, station < medium.stations.length) (station : Nat) :
    (medium.perform operation).2.transmissions station =
      medium.transmissions station ++
        ((Passage.mk medium operation).sending? station).toList := by
  have quiet : ∀ frames : List Bytes, frames = frames ++ [] := fun frames =>
    (List.append_nil frames).symm
  cases operation with
  | attach => exact (getD_attach rfl medium station).trans (quiet _)
  | unlink first second => exact quiet _
  | link | chain =>
      refine Eq.trans ?_ (quiet _)
      simp [perform, transmissions]
  | setVerdict other verdict =>
      exact (transmissions_setVerdict medium other station verdict).trans (quiet _)
  | inject other frame =>
      refine Eq.trans ?_ (quiet _)
      simp only [perform]
      unfold transmissions inject
      rw [getElem?_change]
      split
      · cases medium.stations[station]? <;> rfl
      · rfl
  | send sender frame =>
      cases verdict : medium.verdictOf sender with
      | some fault => simp [Passage.sending?, Passage.answer, perform, transmit, verdict]
      | none =>
          have attached : sender < medium.stations.length := named sender List.mem_cons_self
          simp only [Passage.sending?, Passage.answer, perform, transmit, verdict,
            transmissions_broadcast frame station attached]
          by_cases own : sender = station
          · simp [own]
          · have different : station ≠ sender := fun same => own same.symm
            simp [own, different]
  | receive other room =>
      refine Eq.trans ?_ (quiet _)
      rcases receive?_cases medium other room with
        ⟨-, nothing⟩ | ⟨_, _, _, -, received, took, -⟩
      · simp [perform, nothing]
      · simp [perform, received, took.transmissions]

/-! ### What a radio answers -/

private theorem verdictOf_broadcast (medium : Medium) (sender : Nat) (frame : Bytes)
    (station : Nat) :
    (medium.broadcast sender frame).verdictOf station = medium.verdictOf station := by
  unfold verdictOf
  rw [getElem?_broadcast]
  cases medium.stations[station]? with
  | none => rfl
  | some held =>
      simp only [Option.map_some]
      split
      · rfl
      · split <;> rfl

/-- A new station's radio works. -/
theorem verdictOf_attach (medium : Medium) :
    (medium.attach {}).verdictOf medium.stations.length = none := by
  rw [verdictOf, getElem?_attach, if_pos rfl]

private theorem verdictOf_perform (operation : Operation) {station : Nat}
    (attached : station < medium.stations.length) :
    (medium.perform operation).2.verdictOf station =
      (operation.verdict? station).getD (medium.verdictOf station) := by
  cases operation with
  | attach =>
      simp only [perform, Operation.verdict?, Option.getD_none]
      unfold verdictOf
      rw [getElem?_attach, if_neg (by omega)]
  | setVerdict other verdict =>
      simp only [perform, Operation.verdict?]
      by_cases own : other = station
      · subst own
        rw [if_pos rfl, verdictOf_setVerdict verdict attached]
        rfl
      · rw [if_neg own]
        unfold verdictOf setVerdict
        rw [getElem?_change, if_neg fun same => own same.symm]
        rfl
  | link | chain => simp [perform, Operation.verdict?, verdictOf]
  | unlink first second => rfl
  | inject other frame => exact verdictOf_change other station fun _ => rfl
  | send sender frame =>
      simp only [Operation.verdict?, Option.getD_none, perform, transmit]
      cases medium.verdictOf sender with
      | some fault => rfl
      | none => exact verdictOf_broadcast medium sender frame station
  | receive other room =>
      simp only [Operation.verdict?, Option.getD_none, perform]
      rcases receive?_cases medium other room with
        ⟨-, nothing⟩ | ⟨_, _, _, -, received, -, keeps⟩
      · rw [nothing]
      · rw [received]
        exact keeps station

/-! ### No inbox is limited -/

private theorem unlimited_change {edit : Station → Station} (free : medium.Unlimited) (index : Nat)
    (keeps : ∀ station, (edit station).inbox.limits = station.inbox.limits) :
    (medium.change index edit).Unlimited := by
  intro changed member
  obtain ⟨other, found⟩ := List.mem_iff_getElem?.mp member
  rw [getElem?_change] at found
  split at found
  · obtain ⟨station, present, edited⟩ := Option.map_eq_some_iff.mp found
    rw [← edited, keeps]
    exact free station (List.mem_of_getElem? present)
  · exact free changed (List.mem_of_getElem? found)

private theorem unlimited_perform (free : medium.Unlimited) (operation : Operation) :
    (medium.perform operation).2.Unlimited := by
  cases operation with
  | attach =>
      intro station member
      rcases List.mem_append.mp member with old | new
      · exact free station old
      · rw [List.mem_singleton.mp new]
  | link | chain =>
      intro station member
      simp only [perform, stations_link, stations_chain] at member
      exact free station member
  | unlink first second => exact free
  | setVerdict station verdict => exact unlimited_setVerdict station verdict free
  | inject station frame => exact unlimited_change free station fun _ => rfl
  | send sender frame =>
      simp only [perform, transmit]
      cases medium.verdictOf sender with
      | some fault => exact free
      | none => exact unlimited_broadcast sender frame free
  | receive station room =>
      simp only [perform]
      rcases receive?_cases medium station room with
        ⟨-, nothing⟩ | ⟨_, _, _, -, received, took, -⟩
      · rwa [nothing]
      · rw [received]
        exact took.unlimited free

/-! ### Every medium that operations lead to -/

private theorem filterMap_singleton {α β : Type} (pick? : α → Option β) (one : α) :
    [one].filterMap pick? = (pick? one).toList := by
  cases picked : pick? one <;> simp [picked]

def Passage.Lawful (passage : Passage) : Prop :=
  match passage.operation with
  | .attach =>
      passage.answer = .attached passage.before.stations.length ∧
        ∀ other, passage.after.linked passage.before.stations.length other = false
  | .send sender _ =>
      passage.answer = .sent (passage.before.verdictOf sender) ∧
        passage.after.waitingAt sender = passage.before.waitingAt sender ∧
        (passage.answer ≠ .sent none → passage.after = passage.before)
  | .receive station room =>
      passage.answer =
        .received ((passage.before.waitingAt station).head?.map fun frame => frame.take room)
  | _ => passage.answer = .done

structure Faithful (past : List Operation) (passages : List Passage) (medium : Medium) :
    Prop where
  unlimited : medium.Unlimited
  within : ∀ operation ∈ past, ∀ station ∈ operation.named, station < medium.stations.length
  linked : ∀ one other, medium.linked one other = joined past one other
  answers : ∀ station < medium.stations.length, medium.verdictOf station = answering past station
  accounts : ∀ station,
    Accounts (passages.filterMap fun passage => passage.arrival? station)
      (passages.filterMap fun passage => passage.taking? station) (medium.waitingAt station)
  sent : ∀ station,
    medium.transmissions station = passages.filterMap fun passage => passage.sending? station

private theorem faithful_empty : ({} : Medium).Faithful [] [] where
  unlimited _ none := absurd none List.not_mem_nil
  within _ none := absurd none List.not_mem_nil
  linked _ _ := rfl
  answers _ none := absurd none (Nat.not_lt_zero _)
  accounts _ := .refl []
  sent _ := rfl

namespace Faithful

variable {past : List Operation} {passages : List Passage}

private theorem symmetric (faithful : medium.Faithful past passages) : medium.Symmetric := by
  intro one other
  rw [faithful.linked, faithful.linked, joined_comm]

private theorem proper (faithful : medium.Faithful past passages) : medium.Proper := by
  intro one other hears
  rw [faithful.linked, joined_comm] at hears
  obtain ⟨apart, operation, among, named⟩ := joined_eq_true hears
  exact ⟨apart.symm, faithful.within operation among other named⟩

/-- Nothing was said about a station that was not there. -/
theorem answering_of_beyond (faithful : medium.Faithful past passages) {station : Nat}
    (beyond : medium.stations.length ≤ station) : answering past station = none := by
  unfold answering
  cases last : latest (Operation.verdict? station) past with
  | none => rfl
  | some verdict =>
      obtain ⟨operation, among, tells⟩ := exists_of_latest last
      have within := faithful.within operation among station (mem_named_of_verdict? tells)
      omega

private theorem perform (faithful : medium.Faithful past passages)
    (named : ∀ station ∈ operation.named, station < medium.stations.length) :
    (medium.perform operation).2.Faithful (past ++ [operation])
      (passages ++ [{ before := medium, operation }]) where
  unlimited := unlimited_perform faithful.unlimited operation
  within := by
    intro told among station member
    rw [length_perform]
    rcases List.mem_append.mp among with old | new
    · exact Nat.lt_add_right _ (faithful.within told old station member)
    · rw [List.mem_singleton.mp new] at member
      exact Nat.lt_add_right _ (named station member)
  linked := by
    intro one other
    have concat : joined (past ++ [operation]) one other =
        (operation.joins? one other).getD (joined past one other) := by
      rw [joined, latest_concat, joined]
      cases operation.joins? one other <;> rfl
    rw [concat, linked_perform faithful.symmetric, faithful.linked]
  answers := by
    intro station within
    have concat : answering (past ++ [operation]) station =
        (operation.verdict? station).getD (answering past station) := by
      rw [answering, latest_concat, answering]
      cases operation.verdict? station <;> rfl
    rw [concat]
    by_cases old : station < medium.stations.length
    · rw [verdictOf_perform operation old, faithful.answers station old]
    · rw [length_perform] at within
      rw [faithful.answering_of_beyond (Nat.le_of_not_lt old)]
      cases operation with
      | attach =>
          have new : station = medium.stations.length := by
            simp only [Operation.added] at within
            omega
          rw [new]
          exact verdictOf_attach medium
      | link | unlink | chain | setVerdict | send | inject | receive => exact absurd within old
  accounts := by
    intro station
    have step := Passage.balanced faithful.unlimited faithful.proper named station
    rw [List.filterMap_append, List.filterMap_append, filterMap_singleton, filterMap_singleton]
    exact (faithful.accounts station).append step
  sent := by
    intro station
    rw [List.filterMap_append, filterMap_singleton, ← faithful.sent]
    exact transmissions_perform named station

private theorem lawful (faithful : medium.Faithful past passages)
    (named : ∀ station ∈ operation.named, station < medium.stations.length) :
    Passage.Lawful { before := medium, operation } := by
  cases operation with
  | attach =>
      refine ⟨rfl, fun other => ?_⟩
      cases hears : medium.linked medium.stations.length other with
      | false => exact hears
      | true =>
          rw [faithful.symmetric] at hears
          exact absurd (faithful.proper other _ hears).2 (Nat.lt_irrefl _)
  | link | unlink | chain | setVerdict | inject => rfl
  | send sender frame =>
      have attached : sender < medium.stations.length := named sender List.mem_cons_self
      simp only [Passage.Lawful, Passage.answer, Passage.after, Medium.perform, transmit]
      cases verdict : medium.verdictOf sender with
      | some fault => exact ⟨rfl, rfl, fun _ => rfl⟩
      | none =>
          refine ⟨rfl, ?_, fun failed => absurd rfl failed⟩
          rw [waitingAt_broadcast faithful.unlimited sender frame attached,
            if_neg fun both => both.1 rfl]
  | receive station room =>
      simp only [Passage.Lawful, Passage.answer, Medium.perform]
      rcases receive?_cases medium station room with
        ⟨waits, nothing⟩ | ⟨first, rest, _, waits, received, -, -⟩
      · rw [waits, nothing]
        rfl
      · rw [waits, received]
        rfl

private theorem performAll (faithful : medium.Faithful past passages) {operations : List Operation}
    (sense : sensible medium.stations.length operations = true) :
    (medium.performAll operations).Faithful (past ++ operations)
        (passages ++ medium.history operations) ∧
      ∀ passage ∈ medium.history operations, passage.Lawful := by
  induction operations generalizing medium past passages with
  | nil =>
      rw [history, List.append_nil, List.append_nil]
      exact ⟨faithful, fun passage none => absurd none List.not_mem_nil⟩
  | cons operation rest ih =>
      obtain ⟨named, later⟩ := sensible_cons sense
      rw [← length_perform] at later
      obtain ⟨after, lawful⟩ := ih (faithful.perform named) later
      rw [List.append_assoc, List.append_assoc] at after
      refine ⟨after, fun passage member => ?_⟩
      rcases List.mem_cons.mp member with rfl | among
      · exact faithful.lawful named
      · exact lawful passage among

end Faithful

/-- A medium neither loses nor doubles a frame, whatever is done to it, if only attached
stations are named. Two stations hear each other if that was last said about them, always
both ways, and nobody hears himself. A radio answers what was last set. What arrived at a
station, injected or sent with success by a station that it heard at that moment, is what
it has taken, cut to its buffers, and then what waits there. Each operation tells what it
should: nothing of a sender's own frame comes to wait at the sender, and a send that
fails leaves no trace. -/
theorem neither_loses_nor_echoes {operations : List Operation}
    (sense : sensible 0 operations = true) :
    let medium := ({} : Medium).performAll operations
    let passages := ({} : Medium).history operations
    (∀ one other, medium.linked one other = joined operations one other) ∧
      medium.Symmetric ∧
      (∀ station, medium.linked station station = false) ∧
      (∀ station < medium.stations.length,
        medium.verdictOf station = answering operations station) ∧
      (∀ station,
        Accounts (passages.filterMap fun passage => passage.arrival? station)
          (passages.filterMap fun passage => passage.taking? station)
          (medium.waitingAt station)) ∧
      (∀ station,
        medium.transmissions station =
          passages.filterMap fun passage => passage.sending? station) ∧
      ∀ passage ∈ passages, passage.Lawful := by
  intro medium passages
  obtain ⟨faithful, lawful⟩ := faithful_empty.performAll sense
  refine ⟨faithful.linked, faithful.symmetric, fun station => ?_, faithful.answers,
    faithful.accounts, faithful.sent, lawful⟩
  exact eq_false_of_ne_true fun hears => (faithful.proper station station hears).1 rfl

def changingAir : List Operation :=
  [.attach, .attach, .attach, .chain [0, 1, 2], .send 0 [7, 7], .setVerdict 0 (some .busy),
    .send 0 [8], .receive 1 1, .unlink 1 2, .setVerdict 0 none, .send 0 [9], .inject 0 [5],
    .send 1 [6], .receive 0 4, .receive 2 4]

theorem neither_loses_nor_echoes_changingAir :
    sensible 0 changingAir = true ∧
      Accounts [[7, 7], [9]] [{ room := 1, frame := [7] }]
        ((({} : Medium).performAll changingAir).waitingAt 1) ∧
      Accounts [[5], [6]] [{ room := 4, frame := [5] }]
        ((({} : Medium).performAll changingAir).waitingAt 0) ∧
      (({} : Medium).performAll changingAir).transmissions 0 = [[7, 7], [9]] := by
  have sense : sensible 0 changingAir = true := by decide
  obtain ⟨-, -, -, -, accounts, sent, -⟩ := neither_loses_nor_echoes sense
  exact ⟨sense, accounts 1, accounts 0, sent 0⟩

end Medium

end FloodMesh
