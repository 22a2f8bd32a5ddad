/-
Buffers that are filled in place.

A filling looks at a buffer, writes over some of its bytes and may give up on the way. What
it wrote until then stays written: a buffer is as it was after a failure only if the filling
looked before it wrote.
-/

import FloodMesh.Packet

namespace FloodMesh

abbrev Filling (α : Type) := ExceptT FrameError (StateM Bytes) α

namespace Filling

variable {α β : Type}

/-- The answer of a filling, and what it leaves of a buffer. -/
def on (filling : Filling α) (buffer : Bytes) : Except FrameError α × Bytes :=
  filling.run.run buffer

/-- The answer and the filled buffer, or why it was not filled. -/
def result (filling : Filling α) (buffer : Bytes) : Except FrameError (α × Bytes) :=
  match filling.on buffer with
  | (.ok answer, filled) => .ok (answer, filled)
  | (.error error, _) => .error error

def demand (length : Nat) : Filling Unit := do
  let buffer ← get
  if buffer.length < length then
    throw (.bufferTooSmall length buffer.length)

def copy (offset : Nat) (data : Bytes) : Filling Unit :=
  modify fun buffer => buffer.take offset ++ data ++ buffer.drop (offset + data.length)

@[simp] theorem on_pure (answer : α) (buffer : Bytes) :
    (pure answer : Filling α).on buffer = (.ok answer, buffer) := rfl

@[simp] theorem on_get (buffer : Bytes) :
    (get : Filling Bytes).on buffer = (.ok buffer, buffer) := rfl

@[simp] theorem on_copy (offset : Nat) (data buffer : Bytes) :
    (copy offset data).on buffer =
      (.ok (), buffer.take offset ++ data ++ buffer.drop (offset + data.length)) := rfl

/-- What was written before a failure stays. -/
theorem on_bind (first : Filling α) (next : α → Filling β) (buffer : Bytes) :
    (first >>= next).on buffer =
      match first.on buffer with
      | (.ok answer, later) => (next answer).on later
      | (.error error, left) => (.error error, left) := by
  unfold on ExceptT.run StateT.run
  simp only [bind, ExceptT.bind, ExceptT.mk, ExceptT.bindCont, StateT.bind]
  cases first buffer with
  | mk result left => cases result <;> rfl

/-- A filling that looks first leaves a short buffer alone. -/
theorem on_demand_bind (length : Nat) (next : Unit → Filling α) (buffer : Bytes) :
    (demand length >>= next).on buffer =
      if buffer.length < length then
        (.error (.bufferTooSmall length buffer.length), buffer)
      else (next ()).on buffer := by
  unfold demand
  rw [on_bind, on_bind, on_get]
  dsimp only
  by_cases short : buffer.length < length
  · rw [if_pos short, if_pos short]
    rfl
  · rw [if_neg short, if_neg short, on_pure]

theorem result_of_on {refuses : Prop} [Decidable refuses] {filling : Filling α}
    {buffer left filled : Bytes} {error : FrameError} {answer : α}
    (shown : filling.on buffer =
      if refuses then (.error error, left) else (.ok answer, filled)) :
    filling.result buffer = if refuses then .error error else .ok (answer, filled) := by
  unfold result
  rw [shown]
  by_cases refused : refuses
  · rw [if_pos refused, if_pos refused]
  · rw [if_neg refused, if_neg refused]

end Filling

end FloodMesh
