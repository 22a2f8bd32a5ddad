/-
The whole life of a relay's memory, crashes included.

A relay handles frames, takes over what other tasks announce and fits its
memory to the mesh. Each of these deeds is a sequence of moments, and between
any two of them the power may fail. Then the relay starts over: its memory is
restored from the store, everything else is as the new start has it. The
records of a life say, moment by moment, what happened and how large the memory
was then.

A chain of shifts sees the same life from the memory alone: every record
changes the ring and what is kept of it in one of five ways.
-/

import FloodMesh.Proofs.Course

namespace FloodMesh

/-! ### Moments -/

inductive Moment
  /-- A new fingerprint is remembered, and the memory is handed to its store. -/
  | inserts (fingerprint : Fingerprint) (snapshot : Snapshot)
  /-- A frame with this fingerprint has passed the guards, and the work on it begins. -/
  | acts (fingerprint : Fingerprint)
  | does (effect : Effect)
  /-- The memory has another capacity and is handed to its store. -/
  | resizes (snapshot : Snapshot)
  | restarts

namespace Moment

def effect? : Moment → Option Effect
  | .inserts _ snapshot => some (.saved snapshot)
  | .acts _ => none
  | .does effect => some effect
  | .resizes snapshot => some (.saved snapshot)
  | .restarts => none

def inserted? : Moment → Option Fingerprint
  | .inserts fingerprint _ => some fingerprint
  | _ => none

end Moment

def insertions (ring : Ring) : List Fingerprint → List Moment
  | [] => []
  | fingerprint :: rest =>
      match ring.insert? fingerprint with
      | some later => .inserts fingerprint later.snapshot :: insertions later rest
      | none => insertions ring rest

/-- The moment in which a ring gets another capacity, if it does. -/
def resizing (ring : Ring) (capacity : Nat) : List Moment :=
  match ring.resize? capacity with
  | some later => [.resizes later.snapshot]
  | none => []

def Outcome.reply? : Outcome → Option Fingerprint
  | .delivered (.replied _ _ fingerprint) => some fingerprint
  | _ => none

/-- The moments of the work on a frame that had this outcome and these deeds. -/
def momentsOf (node : Node) (frame : Bytes) (outcome : Outcome) (done : List Effect) :
    List Moment :=
  insertions node.ring node.announced ++
    match Node.examine node.absorbedRing frame with
    | .error _ => []
    | .ok packet =>
        insertions node.absorbedRing [packet.fingerprint] ++
          .acts packet.fingerprint :: done.map .does ++
            insertions (node.absorbedRing.insert packet.fingerprint) outcome.reply?.toList

def Node.moments (node : Node) (surroundings : Surroundings) (frame : Bytes) : List Moment :=
  momentsOf node frame (node.process surroundings frame).outcome
    (deeds (node.process surroundings frame).effects)

/-! ### The moments are the effects -/

def seen (moments : List Moment) : List Effect := moments.filterMap Moment.effect?

@[simp] theorem seen_append (first second : List Moment) :
    seen (first ++ second) = seen first ++ seen second :=
  List.filterMap_append

@[simp] theorem seen_cons_acts (fingerprint : Fingerprint) (moments : List Moment) :
    seen (.acts fingerprint :: moments) = seen moments := rfl

@[simp] theorem seen_map_does (effects : List Effect) : seen (effects.map .does) = effects := by
  unfold seen
  rw [List.filterMap_map]
  exact List.filterMap_some

private theorem seen_insertions (node : Node) (fingerprints : List Fingerprint) :
    seen (insertions node.ring fingerprints) = (node.rememberAll fingerprints).2 := by
  induction fingerprints generalizing node with
  | nil => rfl
  | cons fingerprint rest ih =>
      simp only [Node.rememberAll, insertions, Node.remember]
      cases changed : node.ring.insert? fingerprint with
      | none =>
          simp only [List.nil_append]
          exact ih node
      | some later =>
          rw [← ih { node with ring := later }]
          rfl

private theorem seen_insertion (node : Node) (fingerprint : Fingerprint) :
    seen (insertions node.ring [fingerprint]) = (node.remember fingerprint).2 := by
  rw [seen_insertions]
  simp [Node.rememberAll]

/-- Fitting the memory to the known nodes is a resize. -/
theorem setKnownCount_eq (node : Node) (count : Nat) :
    node.setKnownCount count =
      ({ node with ring := node.ring.resize (Ring.capacityFor count) },
        seen (resizing node.ring (Ring.capacityFor count))) := by
  unfold Node.setKnownCount Ring.resize resizing
  cases node.ring.resize? (Ring.capacityFor count) <;> rfl

namespace Node

/-- All that the work on a packet saves is the memory with the reply. -/
theorem effects_handle (node : Node) (surroundings : Surroundings) (packet : Packet) :
    (node.handle surroundings packet).effects =
      deeds (node.handle surroundings packet).effects ++
        seen (insertions (node.acting packet).ring
          (node.handle surroundings packet).outcome.reply?.toList) := by
  have handled := node.handles surroundings packet
  generalize node.handle surroundings packet = reaction at handled ⊢
  cases handled with
  | forwards | failsToForward | queues | reports | ignores | failsToReply => rfl
  | replies own duty asked replyEq saved accepted =>
      rw [saved, deeds_append, deeds_remember, List.append_nil, ← seen_insertion]
      rfl

private theorem seen_absorbed (node : Node) :
    seen (insertions node.ring node.announced) = node.absorb.2 :=
  seen_insertions { node with announced := [] } node.announced

/-- What the moments show is exactly what the work on the frame shows, in the
same order. -/
theorem seen_moments (node : Node) (surroundings : Surroundings) (frame : Bytes) :
    seen (node.moments surroundings frame) = (node.process surroundings frame).effects := by
  cases examined : examine node.absorbedRing frame with
  | error reason =>
      unfold moments momentsOf
      rw [examined, seen_append, seen_absorbed, process_of_refused surroundings examined]
      exact List.append_nil _
  | ok packet =>
      have ownSave : seen (insertions node.absorbedRing [packet.fingerprint]) =
          (node.received.remember packet.fingerprint).2 :=
        seen_insertion node.received packet.fingerprint
      unfold moments momentsOf
      rw [examined, seen_append, seen_append, seen_append, seen_cons_acts, seen_map_does,
        seen_absorbed, ownSave]
      obtain ⟨outcomeEq, _, deedsEq⟩ := @deeds_process node surroundings frame packet examined
      rw [outcomeEq, deedsEq, process_eq_handle examined]
      rw [List.append_assoc (node.received.remember packet.fingerprint).2]
      exact congrArg (fun done => node.absorb.2 ++
        ((node.received.remember packet.fingerprint).2 ++ done))
        (node.effects_handle surroundings packet).symm

end Node

/-! ### Which frames are acted on -/

theorem acts_not_mem_insertions (ring : Ring) (fingerprints : List Fingerprint)
    (fingerprint : Fingerprint) : .acts fingerprint ∉ insertions ring fingerprints := by
  induction fingerprints generalizing ring with
  | nil => exact List.not_mem_nil
  | cons first rest ih =>
      unfold insertions
      cases ring.insert? first with
      | none => exact ih ring
      | some later =>
          intro member
          rcases List.mem_cons.mp member with same | inRest
          · cases same
          · exact ih later inRest

/-- A frame is dropped or acted on, under the fingerprint it bears. -/
theorem acts_mem_moments_iff {node : Node} {surroundings : Surroundings} {frame : Bytes}
    {fingerprint : Fingerprint} :
    .acts fingerprint ∈ node.moments surroundings frame ↔
      (∃ packet, Packet.decode frame = .ok packet ∧ packet.fingerprint = fingerprint) ∧
        ∀ reason, (node.process surroundings frame).outcome ≠ .dropped reason := by
  unfold Node.moments momentsOf
  cases examined : Node.examine node.absorbedRing frame with
  | error reason =>
      rw [Node.process_of_refused surroundings examined]
      simp [acts_not_mem_insertions]
  | ok packet =>
      have reads := (Node.examine_eq_ok_iff.mp examined).2.2.1
      have acted : ∀ reason, (node.process surroundings frame).outcome ≠ .dropped reason := by
        intro reason dropped
        have refused := (course_process node surroundings frame).refused dropped
        rw [examined] at refused
        cases refused
      simp [acts_not_mem_insertions, reads, acted, eq_comm]

/-! ### Lives -/

def Store.keep {σ : Type} (store : Store σ) (kept : σ) : Effect → σ
  | .saved snapshot => (store.save snapshot kept).2
  | _ => kept

theorem Store.keep_of_visible {σ : Type} (store : Store σ) (kept : σ) {effect : Effect}
    (visible : effect.isSave = false) : store.keep kept effect = kept := by
  cases effect with
  | saved snapshot => cases visible
  | sent | queued | notified | probed | delivered => rfl

structure Store.Faithful {σ : Type} (store : Store σ) (fit : σ → Prop) : Prop where
  fit_save : ∀ snapshot kept, fit kept → fit (store.save snapshot kept).2
  load_save : ∀ snapshot kept, fit kept →
    store.load (store.save snapshot kept).2 = .ok (some snapshot)

inductive Deed
  | hears (surroundings : Surroundings) (frame : Bytes)
  | announces (fingerprint : Fingerprint)
  | resizes (capacity : Nat)

def Deed.moments (node : Node) : Deed → List Moment
  | .hears surroundings frame => node.moments surroundings frame
  | .announces _ => []
  | .resizes capacity => resizing node.ring capacity

def Deed.result (node : Node) : Deed → Node
  | .hears surroundings frame => (node.process surroundings frame).node
  | .announces fingerprint => node.announce fingerprint
  | .resizes capacity => { node with ring := node.ring.resize capacity }

structure Crash where
  /-- So many moments of the deed had come to pass. -/
  after : Nat
  capacity : Nat
  fresh : Node

structure Episode where
  deed : Deed
  crash : Option Crash := none

structure Record where
  moment : Moment
  /-- The capacity of the memory after the moment. -/
  capacity : Nat

def recorded (capacity : Nat) (moments : List Moment) : List Record :=
  moments.map fun moment => { moment, capacity }

@[simp] theorem recorded_append (capacity : Nat) (first second : List Moment) :
    recorded capacity (first ++ second) = recorded capacity first ++ recorded capacity second :=
  List.map_append

@[simp] theorem recorded_nil (capacity : Nat) : recorded capacity [] = [] := rfl

@[simp] theorem moments_recorded (capacity : Nat) (moments : List Moment) :
    (recorded capacity moments).map Record.moment = moments := by
  simp [recorded, Function.comp_def]

structure Life (σ : Type) where
  node : Node
  kept : σ

namespace Life

variable {σ : Type}

def cache (life : Life σ) : Cache σ := { ring := life.node.ring, kept := life.kept }

def keepAll (store : Store σ) (kept : σ) (moments : List Moment) : σ :=
  (seen moments).foldl store.keep kept

theorem keepAll_append (store : Store σ) (kept : σ) (first second : List Moment) :
    keepAll store kept (first ++ second) = keepAll store (keepAll store kept first) second := by
  unfold keepAll
  rw [seen_append, List.foldl_append]

def live (store : Store σ) (life : Life σ) (episode : Episode) : List Record × Life σ :=
  let moments := episode.deed.moments life.node
  let node := episode.deed.result life.node
  match episode.crash with
  | none =>
      (recorded node.ring.capacity moments,
        { node, kept := keepAll store life.kept moments })
  | some crash =>
      let past := moments.take crash.after
      let kept := keepAll store life.kept past
      (recorded node.ring.capacity past ++
          [{ moment := .restarts, capacity := crash.capacity }],
        { node := { crash.fresh with ring := (Cache.restore store crash.capacity kept).ring }
          kept })

def run (store : Store σ) (life : Life σ) : List Episode → List Record × Life σ
  | [] => ([], life)
  | episode :: rest =>
      let (records, later) := life.live store episode
      let (more, final) := later.run store rest
      (records ++ more, final)

inductive Begun (store : Store σ) : Life σ → Prop
  | new (fresh : Node) (capacity : Nat) (kept : σ) :
      Begun store { node := { fresh with ring := (Cache.new capacity kept).ring }, kept }
  | restored (fresh : Node) (capacity : Nat) (kept : σ) :
      Begun store
        { node := { fresh with ring := (Cache.restore store capacity kept).ring }, kept }

end Life

end FloodMesh
