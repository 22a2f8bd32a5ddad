/-
Every change of a duplicate memory is handed to its store at once.

What the store answers shows neither in the memory nor in what its operations
return. A start finds the memory as it was right after the last change that the
store took, and what the store held before if it took none. Nothing is asked of
a store but that it shows no other snapshot than the last one it took.
-/

import FloodMesh.Proofs.FifoSet

namespace FloodMesh

/-! ### What a store is asked -/

structure SaveCall where
  snapshot : Snapshot
  result : Except StoreError Unit

namespace Store

variable {σ : Type}

/-- The same store, with a list of the saves that it was asked for. -/
def listening (store : Store σ) : Store (σ × List SaveCall) :=
  { save := fun snapshot state =>
      let (result, kept) := store.save snapshot state.1
      (result, (kept, state.2 ++ [{ snapshot, result }]))
    load := fun state => store.load state.1 }

/-- `holds` tells which snapshot a state can show: after a save that succeeded at
most this one, after one that was refused none that was not there before. A store
that keeps nothing is among these, and so is one that may refuse to load. -/
structure Keeps (store : Store σ) (holds : σ → Snapshot → Prop) : Prop where
  saved : ∀ snapshot kept found, (store.save snapshot kept).1 = .ok () →
    holds (store.save snapshot kept).2 found → found = snapshot
  refused : ∀ snapshot kept failure found, (store.save snapshot kept).1 = .error failure →
    holds (store.save snapshot kept).2 found → holds kept found
  shown : ∀ kept found, store.load kept = .ok (some found) → holds kept found

end Store

namespace Cache

inductive Operation
  | insert (fingerprint : Fingerprint)
  | resize (capacity : Nat)
  deriving DecidableEq

namespace Operation

/-- The ring as the operation changes it, or none if it does not. -/
def change? (ring : Ring) : Operation → Option Ring
  | .insert fingerprint => ring.insert? fingerprint
  | .resize capacity => ring.resize? capacity

def answer (changed : Bool) : Operation → Option Bool
  | .insert _ => some changed
  | .resize _ => none

end Operation

section Runs

variable {σ : Type}

def perform (store : Store σ) (cache : Cache σ) : Operation → Option Bool × Cache σ
  | .insert fingerprint =>
      let (new, later) := cache.insert store fingerprint
      (some new, later)
  | .resize capacity => (none, cache.resize store capacity)

def run (store : Store σ) (cache : Cache σ) : List Operation → List (Option Bool) × Cache σ
  | [] => ([], cache)
  | operation :: rest =>
      let (answer, later) := cache.perform store operation
      let (answers, final) := later.run store rest
      (answer :: answers, final)

structure Passage where
  operation : Operation
  answer : Option Bool
  before : Ring
  after : Ring
  calls : List SaveCall

namespace Passage

def Changes (passage : Passage) : Prop :=
  match passage.operation with
  | .insert _ => passage.answer = some true
  | .resize capacity => capacity ≠ passage.before.capacity

instance (passage : Passage) : Decidable passage.Changes := by
  unfold Changes
  cases passage.operation <;> infer_instance

def saved (passage : Passage) : Bool := passage.calls.any fun call => call.result.isOk

end Passage

/-- The cache over a store that is listened to from now on. -/
def heard (cache : Cache σ) : Cache (σ × List SaveCall) :=
  { ring := cache.ring, kept := (cache.kept, []) }

def pass (store : Store σ) (cache : Cache σ) (operation : Operation) : Passage × Cache σ :=
  let (answer, later) := cache.heard.perform store.listening operation
  ({ operation, answer, before := cache.ring, after := later.ring, calls := later.kept.2 },
    { ring := later.ring, kept := later.kept.1 })

def history (store : Store σ) (cache : Cache σ) : List Operation → List Passage
  | [] => []
  | operation :: rest =>
      let (passage, later) := cache.pass store operation
      passage :: later.history store rest

def lastSaved? (passages : List Passage) : Option Ring :=
  (passages.filter Passage.saved).getLast?.map Passage.after

/-! ### One operation -/

/-- An operation hands its change to the store, and nothing otherwise. -/
theorem perform_eq (store : Store σ) (cache : Cache σ) (operation : Operation) :
    cache.perform store operation =
      match operation.change? cache.ring with
      | some ring => (operation.answer true, cache.adopt store ring)
      | none => (operation.answer false, cache) := by
  cases operation with
  | insert fingerprint =>
      simp only [perform, insert, Operation.change?, Operation.answer]
      cases cache.ring.insert? fingerprint <;> rfl
  | resize capacity =>
      simp only [perform, resize, Operation.change?, Operation.answer]
      cases cache.ring.resize? capacity <;> rfl

private theorem perform_of_changed {store : Store σ} {cache : Cache σ} {operation : Operation}
    {ring : Ring} (changed : operation.change? cache.ring = some ring) :
    cache.perform store operation = (operation.answer true, cache.adopt store ring) := by
  rw [perform_eq, changed]

private theorem perform_of_unchanged {store : Store σ} {cache : Cache σ} {operation : Operation}
    (unchanged : operation.change? cache.ring = none) :
    cache.perform store operation = (operation.answer false, cache) := by
  rw [perform_eq, unchanged]

private theorem pass_of_changed {store : Store σ} {cache : Cache σ} {operation : Operation}
    {ring : Ring} (changed : operation.change? cache.ring = some ring) :
    cache.pass store operation =
      ({ operation
         answer := operation.answer true
         before := cache.ring
         after := ring
         calls := [{ snapshot := ring.snapshot
                     result := (store.save ring.snapshot cache.kept).1 }] },
        cache.adopt store ring) := by
  have heardChanged : operation.change? cache.heard.ring = some ring := changed
  unfold pass
  rw [perform_of_changed heardChanged]
  rfl

private theorem pass_of_unchanged {store : Store σ} {cache : Cache σ} {operation : Operation}
    (unchanged : operation.change? cache.ring = none) :
    cache.pass store operation =
      ({ operation
         answer := operation.answer false
         before := cache.ring
         after := cache.ring
         calls := [] }, cache) := by
  have heardUnchanged : operation.change? cache.heard.ring = none := unchanged
  unfold pass
  rw [perform_of_unchanged heardUnchanged]
  rfl

/-- Listening to a store changes nothing. -/
theorem pass_eq (store : Store σ) (cache : Cache σ) (operation : Operation) :
    (cache.pass store operation).1.answer = (cache.perform store operation).1 ∧
      (cache.pass store operation).2 = (cache.perform store operation).2 := by
  cases changed : operation.change? cache.ring with
  | some ring =>
      rw [pass_of_changed changed, perform_of_changed changed]
      exact ⟨rfl, rfl⟩
  | none =>
      rw [pass_of_unchanged changed, perform_of_unchanged changed]
      exact ⟨rfl, rfl⟩

private theorem resize?_eq_none_iff {ring : Ring} {capacity : Nat} :
    ring.resize? capacity = none ↔ capacity = ring.capacity := by
  unfold Ring.resize?
  by_cases same : capacity = ring.capacity <;> simp [same]

private theorem changes_pass_iff {store : Store σ} {cache : Cache σ} {operation : Operation} :
    (cache.pass store operation).1.Changes ↔ (operation.change? cache.ring).isSome := by
  cases changed : operation.change? cache.ring with
  | some ring =>
      rw [pass_of_changed changed]
      cases operation with
      | insert fingerprint => simp [Passage.Changes, Operation.answer]
      | resize capacity =>
          have different : capacity ≠ cache.ring.capacity := by
            intro same
            have unchanged := resize?_eq_none_iff.mpr same
            simp only [Operation.change?, unchanged] at changed
            cases changed
          simpa [Passage.Changes] using different
  | none =>
      rw [pass_of_unchanged changed]
      cases operation with
      | insert fingerprint => simp [Passage.Changes, Operation.answer]
      | resize capacity =>
          have same : capacity = cache.ring.capacity := resize?_eq_none_iff.mp changed
          simpa [Passage.Changes] using same

private theorem calls_pass (store : Store σ) (cache : Cache σ) (operation : Operation) :
    (cache.pass store operation).1.calls.map SaveCall.snapshot =
      if (cache.pass store operation).1.Changes then
        [(cache.pass store operation).1.after.snapshot]
      else [] := by
  cases changed : operation.change? cache.ring with
  | some ring =>
      have changes : (cache.pass store operation).1.Changes := by
        rw [changes_pass_iff, changed]
        rfl
      rw [if_pos changes, pass_of_changed changed]
      rfl
  | none =>
      have idle : ¬ (cache.pass store operation).1.Changes := by
        rw [changes_pass_iff, changed]
        exact Bool.false_ne_true
      rw [if_neg idle, pass_of_unchanged changed]
      rfl

private theorem Reached.performed {store : Store σ} {cache : Cache σ}
    (reached : Reached store cache)
    (operation : Operation) : Reached store (cache.perform store operation).2 := by
  cases operation with
  | insert fingerprint => exact reached.inserted fingerprint
  | resize capacity => exact reached.resized capacity

/-! ### Runs -/

/-- Rings and answers depend on nothing a store does. -/
theorem run_eq_of_ring_eq {τ : Type} (store : Store σ) (other : Store τ) {cache : Cache σ}
    {twin : Cache τ} (same : twin.ring = cache.ring) (operations : List Operation) :
    (twin.run other operations).1 = (cache.run store operations).1 ∧
      (twin.run other operations).2.ring = (cache.run store operations).2.ring := by
  induction operations generalizing cache twin with
  | nil => exact ⟨rfl, same⟩
  | cons operation rest ih =>
      simp only [run]
      cases changed : operation.change? cache.ring with
      | some ring =>
          have twinChanged : operation.change? twin.ring = some ring := by rw [same, changed]
          have later : (twin.adopt other ring).ring = (cache.adopt store ring).ring := rfl
          obtain ⟨answers, rings⟩ := ih later
          rw [perform_of_changed changed, perform_of_changed twinChanged]
          exact ⟨by simp only [answers], rings⟩
      | none =>
          have twinUnchanged : operation.change? twin.ring = none := by rw [same, changed]
          obtain ⟨answers, rings⟩ := ih same
          rw [perform_of_unchanged changed, perform_of_unchanged twinUnchanged]
          exact ⟨by simp only [answers], rings⟩

private theorem history_cons (store : Store σ) (cache : Cache σ) (operation : Operation)
    (rest : List Operation) :
    cache.history store (operation :: rest) =
      (cache.pass store operation).1 ::
        (cache.perform store operation).2.history store rest := by
  rw [← (pass_eq store cache operation).2]
  rfl

private theorem answers_history (store : Store σ) (cache : Cache σ) (operations : List Operation) :
    (cache.history store operations).map Passage.answer = (cache.run store operations).1 := by
  induction operations generalizing cache with
  | nil => rfl
  | cons operation rest ih =>
      rw [history_cons, List.map_cons, ih, (pass_eq store cache operation).1]
      rfl

private theorem calls_history {store : Store σ} {cache : Cache σ} {operations : List Operation}
    {passage : Passage} (passed : passage ∈ cache.history store operations) :
    passage.calls.map SaveCall.snapshot =
      if passage.Changes then [passage.after.snapshot] else [] := by
  induction operations generalizing cache with
  | nil => cases passed
  | cons operation rest ih =>
      rw [history_cons] at passed
      rcases List.mem_cons.mp passed with first | later
      · rw [first]
        exact calls_pass store cache operation
      · exact ih later

private theorem Reached.nodup_after {store : Store σ} {cache : Cache σ}
    (reached : Reached store cache)
    {operations : List Operation} {passage : Passage}
    (passed : passage ∈ cache.history store operations) : passage.after.entries.Nodup := by
  induction operations generalizing cache with
  | nil => cases passed
  | cons operation rest ih =>
      have later := reached.performed operation
      rw [history_cons] at passed
      rcases List.mem_cons.mp passed with first | inRest
      · have afterEq : passage.after = (cache.pass store operation).2.ring := by
          rw [first]
          rfl
        rw [afterEq, (pass_eq store cache operation).2]
        exact later.distinct
      · exact ih later inRest

/-! ### What is held -/

private theorem lastSaved?_cons (passage : Passage) (passages : List Passage) :
    lastSaved? (passage :: passages) =
      (lastSaved? passages).or (if passage.saved then some passage.after else none) := by
  unfold lastSaved?
  cases taken : passage.saved with
  | false => simp [taken]
  | true =>
      rw [List.filter_cons_of_pos taken, List.getLast?_cons]
      cases (passages.filter Passage.saved).getLast? <;> rfl

variable {store : Store σ} {holds : σ → Snapshot → Prop}

/-- After one operation a store can show the memory it just took, or what it held. -/
theorem held_pass (keeps : store.Keeps holds) {cache : Cache σ} {operation : Operation}
    {found : Snapshot} (held : holds (cache.perform store operation).2.kept found) :
    if (cache.pass store operation).1.saved then
      found = (cache.pass store operation).1.after.snapshot
    else holds cache.kept found := by
  cases changed : operation.change? cache.ring with
  | none =>
      rw [perform_of_unchanged changed] at held
      rw [pass_of_unchanged changed]
      exact held
  | some ring =>
      rw [perform_of_changed changed] at held
      rw [pass_of_changed changed]
      simp only [Passage.saved, List.any_cons, List.any_nil, Bool.or_false]
      cases result : (store.save ring.snapshot cache.kept).1 with
      | ok done => exact keeps.saved _ _ _ result held
      | error failure => exact keeps.refused _ _ _ _ result held

/-- What a store can show after a run is the last memory it took, or what it held
before if it took none. -/
theorem held_run (keeps : store.Keeps holds) {cache : Cache σ} {operations : List Operation}
    {found : Snapshot} (held : holds (cache.run store operations).2.kept found) :
    match lastSaved? (cache.history store operations) with
    | some ring => found = ring.snapshot
    | none => holds cache.kept found := by
  induction operations generalizing cache with
  | nil => exact held
  | cons operation rest ih =>
      have later := @ih (cache.perform store operation).2 held
      rw [history_cons, lastSaved?_cons]
      cases last : lastSaved? ((cache.perform store operation).2.history store rest) with
      | some ring =>
          rw [last] at later
          exact later
      | none =>
          rw [last] at later
          have first := held_pass keeps later
          cases taken : (cache.pass store operation).1.saved with
          | true =>
              rw [taken, if_pos rfl] at first
              exact first
          | false =>
              rw [taken, if_neg Bool.false_ne_true] at first
              exact first

private theorem Reached.nodup_lastSaved {cache : Cache σ} (reached : Reached store cache)
    {operations : List Operation} {ring : Ring}
    (last : lastSaved? (cache.history store operations) = some ring) : ring.entries.Nodup := by
  obtain ⟨passage, isLast, rfl⟩ := Option.map_eq_some_iff.mp last
  have kept := List.mem_of_getLast? isLast
  exact reached.nodup_after (List.mem_filter.mp kept).1

private theorem entries_restore_of_silent {kept : σ}
    (silent : ∀ snapshot, store.load kept ≠ .ok (some snapshot)) (capacity : Nat) :
    (Cache.restore store capacity kept).ring.entries = [] := by
  have nothing : offered store kept = [] := by
    unfold offered
    split
    · rename_i snapshot loaded
      exact absurd loaded (silent snapshot)
    · rfl
  rw [ring_restore, nothing, Ring.entries_refill_empty_eq]
  simp [newest]

private theorem entries_restore_of_loaded {kept : σ} {snapshot : Snapshot}
    (loaded : store.load kept = .ok (some snapshot)) (capacity : Nat) :
    (Cache.restore store capacity kept).ring.entries =
      (newest capacity snapshot.fingerprints).eraseDups := by
  rw [ring_restore, Ring.entries_refill_empty_eq]
  unfold offered
  rw [loaded]

/-- Whatever a store refuses: memory and answers are those over any other store, one
that never fails among them; each change is handed over exactly once, as the memory
is after it, and nothing else is; and a start finds the newest of the memory as the
store took it last. -/
theorem write_through (keeps : store.Keeps holds) {start : Cache σ}
    (reached : Reached store start) (operations : List Operation) :
    (∀ (τ : Type) (other : Store τ) (twin : Cache τ), twin.ring = start.ring →
        (twin.run other operations).1 = (start.run store operations).1 ∧
          (twin.run other operations).2.ring = (start.run store operations).2.ring) ∧
      ((start.history store operations).map Passage.answer = (start.run store operations).1 ∧
        ∀ passage ∈ start.history store operations,
          passage.calls.map SaveCall.snapshot =
            if passage.Changes then [passage.after.snapshot] else []) ∧
      ∀ capacity,
        let kept := (start.run store operations).2.kept
        let found := (Cache.restore store capacity kept).ring
        found.capacity = capacity ∧
          ((∀ snapshot, store.load kept ≠ .ok (some snapshot)) → found.entries = []) ∧
          ∀ snapshot, store.load kept = .ok (some snapshot) →
            match lastSaved? (start.history store operations) with
            | some ring => found.entries = newest capacity ring.entries
            | none =>
                holds start.kept snapshot ∧
                  found.entries = (newest capacity snapshot.fingerprints).eraseDups := by
  refine ⟨?_, ⟨answers_history store start operations, fun passage => calls_history⟩, ?_⟩
  · intro τ other twin same
    exact run_eq_of_ring_eq store other same operations
  · intro capacity
    refine ⟨?_, ?_, ?_⟩
    · rw [ring_restore, Ring.capacity_refill, Ring.capacity_empty]
    · intro silent
      exact entries_restore_of_silent silent capacity
    · intro snapshot loaded
      have held := held_run keeps (keeps.shown _ _ loaded)
      have found := entries_restore_of_loaded loaded capacity
      cases last : lastSaved? (start.history store operations) with
      | none =>
          rw [last] at held
          exact ⟨held, found⟩
      | some ring =>
          rw [last] at held
          -- What was taken has no repetitions, so a start has none to leave out.
          have distinct := reached.nodup_lastSaved last
          rw [ring_restore]
          unfold offered
          rw [loaded]
          simp only [held, Ring.fingerprints_snapshot]
          exact Ring.entries_refill_empty capacity distinct

end Runs

/-! ### Stores -/

theorem keeps_none : Store.none.Keeps fun _ _ => False := by
  constructor
  · intro snapshot kept found _ impossible
    cases impossible
  · intro snapshot kept failure found refused
    cases refused
  · intro kept found loaded
    cases loaded

theorem keeps_slot : Store.slot.Keeps fun slot found => slot.saved = some found := by
  constructor
  · intro snapshot slot found taken held
    simp only [Store.slot] at taken held
    split at taken
    · cases taken
    · rename_i willing
      rw [if_neg willing] at held
      exact (Option.some.inj held).symm
  · intro snapshot slot failure found refused held
    simp only [Store.slot] at refused held
    split at refused
    · rename_i unwilling
      rw [if_pos unwilling] at held
      exact held
    · cases refused
  · intro slot found loaded
    simp only [Store.slot] at loaded
    split at loaded
    · cases loaded
    · exact Except.ok.inj loaded

/-! ### A store that refuses at times -/

/-- Keeps the last snapshot and refuses saves as told, one after the other. -/
def fickle : Store (Option Snapshot × List Bool) :=
  { save := fun snapshot state =>
      match state.2 with
      | true :: rest => (.error .unreachable, (state.1, rest))
      | false :: rest => (.ok (), (some snapshot, rest))
      | [] => (.ok (), (some snapshot, []))
    load := fun state => .ok state.1 }

private theorem keeps_fickle : fickle.Keeps fun state found => state.1 = some found := by
  constructor
  · intro snapshot state found taken held
    obtain ⟨saved, refusals⟩ := state
    match refusals with
    | [] => exact (Option.some.inj held).symm
    | false :: rest => exact (Option.some.inj held).symm
    | true :: rest => cases taken
  · intro snapshot state failure found refused held
    obtain ⟨saved, refusals⟩ := state
    match refusals with
    | [] => cases refused
    | false :: rest => cases refused
    | true :: rest => exact held
  · intro state found loaded
    exact Except.ok.inj loaded

def forsaken : Cache (Option Snapshot × List Bool) := .new 2 (none, [false, true])

def forsakenLife : List Operation := [.insert (stamp 1), .insert (stamp 1), .insert (stamp 2)]

theorem write_through_forsaken :
    (forsaken.run fickle forsakenLife).1 = [some true, some false, some true] ∧
      (forsaken.run fickle forsakenLife).2.ring.entries = [stamp 1, stamp 2] ∧
      (Cache.restore fickle 2 (forsaken.run fickle forsakenLife).2.kept).ring.entries =
        [stamp 1] := by
  have reached : Reached fickle forsaken := .new 2 _
  have loaded : fickle.load (forsaken.run fickle forsakenLife).2.kept =
      .ok (some { capacity := 2, entries := [(stamp 1).hex] }) := by decide +kernel
  have last : (lastSaved? (forsaken.history fickle forsakenLife)).map Ring.entries =
      some [stamp 1] := by decide +kernel
  obtain ⟨ring, lastEq, entriesEq⟩ := Option.map_eq_some_iff.mp last
  have found := ((write_through keeps_fickle reached forsakenLife).2.2 2).2.2 _ loaded
  rw [lastEq] at found
  refine ⟨by decide +kernel, by decide +kernel, ?_⟩
  rw [found, entriesEq]
  decide +kernel

end Cache

end FloodMesh
