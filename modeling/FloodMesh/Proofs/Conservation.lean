/-
A queue conserves its entries.

Clients push, take the oldest entry or all of them, look for an entry or copy the
queue. The queue lets one of them in at a time, so whatever any number of them do is
one sequence of operations. An entry leaves with the client that takes it or, when a
push finds the queue full, because it is the oldest. What has left, followed by what
is there, is what was pushed.
-/

import FloodMesh.Proofs.WakeUp
import Mathlib.Data.List.Nodup

namespace FloodMesh

namespace Queue

/-! ### Operations -/

inductive Operation
  | push (dest src : Address) (data : Reading) (receivedAt : Nat)
  | pop
  | drain
  | find (dest src : Address)
  | copy

inductive Answer
  | number (id : Nat)
  | entry (entry : Option Entry)
  | entries (entries : List Entry)

def perform (queue : Queue) : Operation → Answer × Queue
  | .push dest src data receivedAt =>
      let (entry, later) := queue.push dest src data receivedAt
      (.number entry.id, later)
  | .pop =>
      let (entry, later) := queue.pop
      (.entry entry, later)
  | .drain =>
      let (entries, later) := queue.drain
      (.entries entries, later)
  | .find dest src => (.entry (queue.find? dest src), queue)
  | .copy => (.entries queue.entries, queue)

def performAll (queue : Queue) : List Operation → Queue
  | [] => queue
  | operation :: rest => (queue.perform operation).2.performAll rest

def issuedFrom (last : Nat) : List Operation → List Entry
  | [] => []
  | .push dest src data receivedAt :: rest =>
      { id := last + 1, dest, src, data, receivedAt } :: issuedFrom (last + 1) rest
  | _ :: rest => issuedFrom last rest

def evicted (queue : Queue) : List Entry :=
  if queue.capacity ≤ queue.entries.length then queue.entries.take 1 else []

structure Passage where
  before : Queue
  operation : Operation

namespace Passage

variable (passage : Passage)

def answer : Answer := (passage.before.perform passage.operation).1

def after : Queue := (passage.before.perform passage.operation).2

def removed : List Entry :=
  passage.before.entries.filter fun entry => entry ∉ passage.after.entries

def number? : Option Nat :=
  match passage.answer with
  | .number id => some id
  | _ => none

/-- Who may take what out of a queue that has room for so many entries, and what a
client that takes nothing sees. -/
def Lawful (limit : Nat) : Prop :=
  match passage.operation with
  | .push _ _ _ _ =>
      passage.removed =
        if passage.before.entries.length = limit then passage.before.entries.take 1 else []
  | .pop =>
      passage.removed = passage.before.entries.take 1 ∧
        passage.answer = .entry passage.removed.head?
  | .drain =>
      passage.removed = passage.before.entries ∧ passage.answer = .entries passage.removed
  | .find dest src =>
      passage.after = passage.before ∧
        ∃ found, passage.answer = .entry found ∧
          ∀ entry, found = some entry ↔ passage.before.Oldest dest src entry
  | .copy => passage.after = passage.before ∧ passage.answer = .entries passage.before.entries

end Passage

def history (queue : Queue) : List Operation → List Passage
  | [] => []
  | operation :: rest =>
      { before := queue, operation } :: (queue.perform operation).2.history rest

/-! ### One operation splits the queue -/

private theorem evicted_append_keptForPush (queue : Queue) :
    queue.evicted ++ queue.keptForPush = queue.entries := by
  unfold evicted keptForPush
  split
  · exact List.take_append_drop 1 queue.entries
  · rfl

def leaving (queue : Queue) : Operation → List Entry
  | .push _ _ _ _ => queue.evicted
  | .pop => queue.entries.take 1
  | .drain => queue.entries
  | _ => []

def staying (queue : Queue) : Operation → List Entry
  | .push _ _ _ _ => queue.keptForPush
  | .pop => queue.entries.drop 1
  | .drain => []
  | _ => queue.entries

variable {queue : Queue} {operation : Operation}

private theorem leaving_append_staying (queue : Queue) (operation : Operation) :
    queue.leaving operation ++ queue.staying operation = queue.entries := by
  cases operation with
  | push => exact queue.evicted_append_keptForPush
  | pop => exact List.take_append_drop 1 queue.entries
  | drain => exact List.append_nil _
  | find => rfl
  | copy => rfl

private theorem entries_perform (queue : Queue) (operation : Operation) :
    (queue.perform operation).2.entries =
      queue.staying operation ++ issuedFrom queue.lastId [operation] := by
  cases operation with
  | push => rfl
  | pop | drain | find | copy => exact (List.append_nil _).symm

private theorem lastId_perform (queue : Queue) (operation : Operation) :
    (queue.perform operation).2.lastId =
      queue.lastId + (issuedFrom queue.lastId [operation]).length := by
  cases operation <;> rfl

private theorem capacity_perform (queue : Queue) (operation : Operation) :
    (queue.perform operation).2.capacity = queue.capacity := by
  cases operation <;> rfl

private theorem length_entries_perform_le (roomy : 0 < queue.capacity)
    (fits : queue.entries.length ≤ queue.capacity) :
    (queue.perform operation).2.entries.length ≤ queue.capacity := by
  cases operation with
  | push dest src data receivedAt =>
      simp only [perform, push, keptForPush, List.length_append, List.length_singleton]
      split
      · rw [List.length_drop]
        omega
      · omega
  | pop =>
      simp only [perform, pop, List.length_drop]
      omega
  | drain => exact Nat.zero_le _
  | find => exact fits
  | copy => exact fits

/-! ### Numbers -/

private theorem issuedFrom_cons (last : Nat) (operation : Operation) (rest : List Operation) :
    issuedFrom last (operation :: rest) =
      issuedFrom last [operation] ++
        issuedFrom (last + (issuedFrom last [operation]).length) rest := by
  cases operation <;> rfl

private theorem issuedFrom_append (last : Nat) (first second : List Operation) :
    issuedFrom last (first ++ second) =
      issuedFrom last first ++ issuedFrom (last + (issuedFrom last first).length) second := by
  induction first generalizing last with
  | nil => rfl
  | cons operation rest ih =>
      rw [List.cons_append, issuedFrom_cons, ih, issuedFrom_cons last operation rest,
        List.append_assoc, List.length_append, Nat.add_assoc]

private theorem ids_issuedFrom (last : Nat) (operations : List Operation) :
    (issuedFrom last operations).map Entry.id =
      List.range' (last + 1) (issuedFrom last operations).length := by
  induction operations generalizing last with
  | nil => rfl
  | cons operation rest ih =>
      cases operation with
      | push dest src data receivedAt =>
          simp only [issuedFrom, List.map_cons, List.length_cons, List.range'_succ]
          rw [ih]
      | pop | drain | find | copy => exact ih last

theorem nodup_issuedFrom (last : Nat) (operations : List Operation) :
    (issuedFrom last operations).Nodup := by
  apply List.Nodup.of_map Entry.id
  rw [ids_issuedFrom]
  exact List.nodup_range'

/-! ### What is conserved -/

structure Conserves (limit : Nat) (past : List Operation) (left : List Entry)
    (queue : Queue) : Prop where
  roomy : 0 < limit
  capacity : queue.capacity = limit
  fits : queue.entries.length ≤ limit
  lastId : queue.lastId = (issuedFrom 0 past).length
  conserved : left ++ queue.entries = issuedFrom 0 past

theorem conserves_new (capacity : Nat) : (new capacity).Conserves (max capacity 1) [] [] where
  roomy := by omega
  capacity := rfl
  fits := Nat.zero_le _
  lastId := rfl
  conserved := rfl

namespace Conserves

variable {limit : Nat} {past : List Operation} {left : List Entry}

private theorem issued_concat (conserves : queue.Conserves limit past left)
    (operation : Operation) :
    issuedFrom 0 (past ++ [operation]) =
      issuedFrom 0 past ++ issuedFrom queue.lastId [operation] := by
  rw [issuedFrom_append, Nat.zero_add, conserves.lastId]

theorem perform (conserves : queue.Conserves limit past left) (operation : Operation) :
    (queue.perform operation).2.Conserves limit (past ++ [operation])
      (left ++ queue.leaving operation) where
  roomy := conserves.roomy
  capacity := (capacity_perform queue operation).trans conserves.capacity
  fits := by
    have roomy := conserves.roomy
    have fits := conserves.fits
    rw [← conserves.capacity] at roomy fits ⊢
    exact length_entries_perform_le roomy fits
  lastId := by
    rw [lastId_perform, conserves.issued_concat, List.length_append, ← conserves.lastId]
  conserved := by
    rw [entries_perform, conserves.issued_concat, ← conserves.conserved,
      ← leaving_append_staying queue operation]
    simp only [List.append_assoc]

private theorem nodup (conserves : queue.Conserves limit past left) (operation : Operation) :
    (queue.leaving operation ++
      (queue.staying operation ++ issuedFrom queue.lastId [operation])).Nodup := by
  have distinct := nodup_issuedFrom 0 (past ++ [operation])
  rw [conserves.issued_concat, ← conserves.conserved, ← leaving_append_staying queue operation,
    List.append_assoc, List.append_assoc] at distinct
  exact distinct.of_append_right

/-- What is missing after an operation is the front part that it takes away. -/
theorem removed_eq (conserves : queue.Conserves limit past left) (operation : Operation) :
    Passage.removed { before := queue, operation } = queue.leaving operation := by
  have apart := List.disjoint_of_nodup_append (conserves.nodup operation)
  unfold Passage.removed Passage.after
  rw [entries_perform]
  conv => lhs; rw [← leaving_append_staying queue operation]
  rw [List.filter_append, List.filter_eq_self.mpr, List.filter_eq_nil_iff.mpr, List.append_nil]
  · intro entry stays
    simp [stays]
  · intro entry leaves
    exact decide_eq_true (apart leaves)

private theorem lawful (conserves : queue.Conserves limit past left) (operation : Operation) :
    Passage.Lawful { before := queue, operation } limit := by
  have removed := conserves.removed_eq operation
  unfold Passage.Lawful
  cases operation with
  | push dest src data receivedAt =>
      have full : queue.capacity ≤ queue.entries.length ↔ queue.entries.length = limit := by
        have fits := conserves.fits
        rw [conserves.capacity]
        omega
      simp only [removed, leaving, evicted, full]
  | pop =>
      simp only [removed, leaving]
      refine ⟨trivial, ?_⟩
      cases entries : queue.entries <;>
        simp [Passage.answer, Queue.perform, pop, entries]
  | drain =>
      simp only [removed, leaving]
      exact ⟨trivial, rfl⟩
  | find dest src => exact ⟨rfl, _, rfl, fun entry => find?_eq_some_iff⟩
  | copy => exact ⟨rfl, rfl⟩

private theorem performAll (conserves : queue.Conserves limit past left)
    (operations : List Operation) :
    (queue.performAll operations).Conserves limit (past ++ operations)
      (left ++ (queue.history operations).flatMap Passage.removed) := by
  induction operations generalizing queue past left with
  | nil =>
      rw [history, List.flatMap_nil, List.append_nil, List.append_nil]
      exact conserves
  | cons operation rest ih =>
      have later := ih (conserves.perform operation)
      rw [← conserves.removed_eq operation] at later
      simpa only [history, Queue.performAll, List.flatMap_cons, List.append_assoc,
        List.singleton_append] using later

private theorem lawful_history (conserves : queue.Conserves limit past left)
    (operations : List Operation) :
    ∀ passage ∈ queue.history operations, passage.Lawful limit := by
  induction operations generalizing queue past left with
  | nil => exact fun passage none => absurd none List.not_mem_nil
  | cons operation rest ih =>
      intro passage member
      rcases List.mem_cons.mp member with rfl | later
      · exact conserves.lawful operation
      · exact ih (conserves.perform operation) passage later

/-- The queue holds the last of the numbers. -/
theorem ids (conserves : queue.Conserves limit past left) :
    queue.entries.map Entry.id =
      List.range' (queue.lastId + 1 - queue.entries.length) queue.entries.length := by
  have count := congrArg List.length conserves.conserved
  have all := ids_issuedFrom 0 past
  rw [List.length_append] at count
  rw [← conserves.conserved, List.map_append, conserves.conserved, ← count, Nat.add_comm 0,
    ← List.range'_append_1] at all
  have lengths : (left.map Entry.id).length = (List.range' 1 left.length).length := by
    rw [List.length_map, List.length_range']
  rw [(List.append_inj all lengths).2, conserves.lastId, ← count]
  congr 1
  omega

end Conserves

/-- Each push is told the next number. -/
theorem numbers_history (queue : Queue) (operations : List Operation) :
    (queue.history operations).filterMap Passage.number? =
      (issuedFrom queue.lastId operations).map Entry.id := by
  induction operations generalizing queue with
  | nil => rfl
  | cons operation rest ih =>
      rw [history, issuedFrom_cons, List.map_append, ← lastId_perform, ← ih]
      cases operation <;> rfl

/-- Whatever clients do with a queue, and however little room it has: it holds no more
than it may, under the last numbers that were given out. What was taken or pushed out,
in this order, and then what is still there, is what was pushed. A push removes the
oldest entry and only if there is no room, the two takers are given what they remove,
and looking for the oldest match changes nothing. -/
theorem conserves_entries (capacity : Nat) (operations : List Operation) :
    let queue := (new capacity).performAll operations
    let passages := (new capacity).history operations
    let pushed := issuedFrom 0 operations
    queue.entries.length ≤ max capacity 1 ∧
      queue.entries.map Entry.id =
        List.range' (queue.lastId + 1 - queue.entries.length) queue.entries.length ∧
      queue.lastId = pushed.length ∧
      passages.filterMap Passage.number? = List.range' 1 pushed.length ∧
      pushed.map Entry.id = List.range' 1 pushed.length ∧
      passages.flatMap Passage.removed ++ queue.entries = pushed ∧
      ∀ passage ∈ passages, passage.Lawful (max capacity 1) := by
  intro queue passages pushed
  have conserves := (conserves_new capacity).performAll operations
  have numbered := ids_issuedFrom 0 operations
  have told := numbers_history (new capacity) operations
  refine ⟨conserves.fits, conserves.ids, conserves.lastId, ?_, numbered, conserves.conserved, ?_⟩
  · exact told.trans numbered
  · exact (conserves_new capacity).lawful_history operations

end Queue

end FloodMesh
