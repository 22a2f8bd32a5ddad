/-
A session takes its steps one by one and answers each with its result and the
state after it. A step that fails answers its failure and leaves the state as it
was. Where steps have events, these are arranged before the step is done, and
those that could be arranged stay so even if the step fails.
-/

import FloodMesh.Scenario.Decode
import FloodMesh.Scenario.Encode

namespace FloodMesh.Scenario

abbrev Step (State : Type) := State → String → Json → Read (Json × State)

variable {State : Type}

/-- What happens to the state before a step is done, and whether all of it could. -/
abbrev Prepare (State : Type) := State → Json → Read Unit × State

/-- The answers to the steps. `describe` shows the state after a step and says
with which state the next one starts. -/
def answers (prepare : Prepare State) (perform : Step State)
    (describe : State → Members × State) : State → List Json → Read (List Json)
  | _, [] => .ok []
  | state, step :: rest => do
      let name ← text "do" step
      let (ready, prepared) := prepare state step
      let (result, performed) :=
        match ready >>= fun _ => perform prepared name step with
        | .ok (result, later) => (result, later)
        | .error failure => (failure.toJson, prepared)
      let (described, later) := describe performed
      pure
        (.object (("result", result) :: described) ::
          (← answers prepare perform describe later rest))

def session (start : State) (input : Json) (perform : Step State)
    (describe : State → Members × State) : Read Json := do
  let prepare : Prepare State := fun state _ => (.ok (), state)
  .array <$> answers prepare perform describe start (← items "steps" input)

abbrev Arrange (State : Type) := State → Nat → Json → Read State

def arrangeAll (arrange : Arrange State) : State → List Json → Read Unit × State
  | state, [] => (.ok (), state)
  | state, event :: rest =>
      match nat "after_ms" event >>= fun delay => arrange state delay event with
      | .ok arranged => arrangeAll arrange arranged rest
      | .error failure => (.error failure, state)

/-- A session in which events may happen from a step on. -/
def eventfulSession (start : State) (input : Json) (arrange : Arrange State)
    (perform : Step State) (describe : State → Members × State) : Read Json := do
  let prepare : Prepare State := fun state step =>
    match itemsOr "events" step with
    | .ok events => arrangeAll arrange state events
    | .error failure => (.error failure, state)
  .array <$> answers prepare perform describe start (← items "steps" input)

def silently (state : State) : Read (Json × State) := .ok (.null, state)

def unknownStep (name : String) : Read (Json × State) := bad ("step " ++ name)

end FloodMesh.Scenario
