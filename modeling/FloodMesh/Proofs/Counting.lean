/-
The counters of a relay add up.

A call takes one frame to its end, whatever the frame holds and whatever the radio
answers. Between two calls everything but the counters may change: the duty, the
probe, the memory, the queue. Each counter is the number of calls that ended one
way, so what the counters say together follows from counting outcomes.
-/

import FloodMesh.Proofs.Course

namespace FloodMesh

/-! ### Counting outcomes -/

namespace Outcome

def isForward : Outcome → Bool
  | .forwarded _ _ => true
  | _ => false

def isForwardFailure : Outcome → Bool
  | .forwardFailed _ _ => true
  | _ => false

def isReplyFailure : Outcome → Bool
  | .replyFailed _ => true
  | _ => false

private theorem isDispatch_of_isReplyFailure {outcome : Outcome}
    (failed : outcome.isReplyFailure = true) : outcome.isDispatch = true := by
  cases outcome with
  | replyFailed failure => rfl
  | dropped | delivered | forwarded | forwardFailed => cases failed

end Outcome

namespace Tally

def ofOutcomes (outcomes : List Outcome) : Tally where
  received := outcomes.length
  short := outcomes.count (.dropped .short)
  corrupt := outcomes.count (.dropped .corrupt)
  malformed := outcomes.count (.dropped .malformed)
  expired := outcomes.count (.dropped .expired)
  duplicate := outcomes.count (.dropped .duplicate)
  delivered := outcomes.countP Outcome.isDispatch
  forwarded := outcomes.countP Outcome.isForward
  sendFailures :=
    outcomes.countP Outcome.isForwardFailure + outcomes.countP Outcome.isReplyFailure

def meet (tally : Tally) : Tally := { tally with received := tally.received + 1 }

/-- The counters after one more call. Only a reply that fails is counted twice. -/
def count (tally : Tally) : Outcome → Tally
  | .dropped reason => tally.meet.drop reason
  | .delivered _ => { tally.meet with delivered := tally.delivered + 1 }
  | .forwarded _ _ => { tally.meet with forwarded := tally.forwarded + 1 }
  | .forwardFailed _ _ => { tally.meet with sendFailures := tally.sendFailures + 1 }
  | .replyFailed _ =>
      { tally.meet with
        delivered := tally.delivered + 1
        sendFailures := tally.sendFailures + 1 }

private theorem ofOutcomes_concat (outcomes : List Outcome) (last : Outcome) :
    ofOutcomes (outcomes ++ [last]) = (ofOutcomes outcomes).count last := by
  simp only [ofOutcomes, List.length_append, List.length_singleton, List.count_append,
    List.countP_append, List.count_singleton, List.countP_singleton]
  cases last with
  | dropped reason => cases reason <;> rfl
  | delivered handled => rfl
  | forwarded kind hops => rfl
  | replyFailed failure => rfl
  | forwardFailed kind fault =>
      rw [Tally.mk.injEq]
      exact ⟨rfl, rfl, rfl, rfl, rfl, rfl, rfl, rfl, Nat.add_right_comm _ _ _⟩

/-- Every call came to one of these ends. -/
theorem received_ofOutcomes (outcomes : List Outcome) :
    let tally := ofOutcomes outcomes
    tally.received =
      tally.short + tally.corrupt + tally.malformed + tally.expired + tally.duplicate +
        tally.delivered + tally.forwarded + outcomes.countP Outcome.isForwardFailure := by
  induction outcomes with
  | nil => rfl
  | cons first rest ih =>
      simp only [ofOutcomes, List.length_cons, List.count_cons, List.countP_cons] at ih ⊢
      have once :
          (if first == .dropped .short then 1 else 0) +
            (if first == .dropped .corrupt then 1 else 0) +
            (if first == .dropped .malformed then 1 else 0) +
            (if first == .dropped .expired then 1 else 0) +
            (if first == .dropped .duplicate then 1 else 0) +
            (if first.isDispatch then 1 else 0) + (if first.isForward then 1 else 0) +
            (if first.isForwardFailure then 1 else 0) = 1 := by
        cases first with
        | dropped reason => cases reason <;> rfl
        | delivered | forwarded | forwardFailed | replyFailed => rfl
      omega

private theorem replyFailures_le (outcomes : List Outcome) :
    outcomes.countP Outcome.isReplyFailure ≤ (ofOutcomes outcomes).delivered :=
  List.countP_mono_left fun _ _ => Outcome.isDispatch_of_isReplyFailure

end Tally

/-! ### One call -/

namespace Node

private theorem tally_handle (node : Node) (surroundings : Surroundings) (packet : Packet) :
    (node.handle surroundings packet).node.tally =
      node.tally.count (node.handle surroundings packet).outcome := by
  have handled := node.handles surroundings packet
  generalize node.handle surroundings packet = reaction at handled ⊢
  cases handled with
  | forwards | failsToForward | queues | reports | ignores | replies | failsToReply => rfl

/-- A call is counted by its outcome, and nothing else touches the counters. -/
theorem tally_process (node : Node) (surroundings : Surroundings) (frame : Bytes) :
    (node.process surroundings frame).node.tally =
      node.tally.count (node.process surroundings frame).outcome := by
  cases examined : examine node.absorbedRing frame with
  | error reason =>
      rw [process_of_refused surroundings examined]
      rfl
  | ok packet =>
      obtain ⟨outcomeEq, nodeEq, _⟩ := @deeds_process node surroundings frame packet examined
      rw [outcomeEq, nodeEq]
      exact node.tally_handle surroundings packet

end Node

/-- A frame goes out with a packet sent on and with a reply, and not otherwise. -/
theorem Course.length_sentFrames {node : Node} {surroundings : Surroundings} {frame : Bytes}
    {outcome : Outcome} {done : List Effect} {ring : Ring}
    (course : Course node surroundings frame outcome done ring) :
    (sentFrames done).length =
      (if outcome.isForward then 1 else 0) + if outcome.isReply then 1 else 0 := by
  cases course with
  | dropped | forwarded | forwardFailed | queued | reported | ignored | replied | replyFailed =>
      rfl

/-! ### Many calls -/

structure Call where
  /-- What else happened to the node since the last call. -/
  meanwhile : Node → Node
  surroundings : Surroundings
  frame : Bytes

namespace Call

def react (call : Call) (node : Node) : Reaction :=
  { call.meanwhile node with tally := node.tally }.process call.surroundings call.frame

private theorem tally_react (call : Call) (node : Node) :
    (call.react node).node.tally = node.tally.count (call.react node).outcome :=
  Node.tally_process _ _ _

private theorem length_sentFrames_react (call : Call) (node : Node) :
    (sentFrames (call.react node).effects).length =
      (if (call.react node).outcome.isForward then 1 else 0) +
        if (call.react node).outcome.isReply then 1 else 0 := by
  rw [← sentFrames_deeds]
  exact (course_process _ _ _).length_sentFrames

end Call

namespace Node

/-- What the calls bring about, one after the other, and the node after them. -/
def reactAll (node : Node) : List Call → List Reaction × Node
  | [] => ([], node)
  | call :: rest =>
      let reaction := call.react node
      let (reactions, final) := reaction.node.reactAll rest
      (reaction :: reactions, final)

private theorem length_reactAll (node : Node) (calls : List Call) :
    (node.reactAll calls).1.length = calls.length := by
  induction calls generalizing node with
  | nil => rfl
  | cons call rest ih => exact congrArg (· + 1) (ih _)

private theorem tally_reactAll {node : Node} {earlier : List Outcome}
    (counted : node.tally = Tally.ofOutcomes earlier) (calls : List Call) :
    (node.reactAll calls).2.tally =
      Tally.ofOutcomes (earlier ++ (node.reactAll calls).1.map Reaction.outcome) := by
  induction calls generalizing node earlier with
  | nil =>
      rw [reactAll, List.map_nil, List.append_nil]
      exact counted
  | cons call rest ih =>
      have next : (call.react node).node.tally =
          Tally.ofOutcomes (earlier ++ [(call.react node).outcome]) := by
        rw [call.tally_react, counted, Tally.ofOutcomes_concat]
      simp only [reactAll, List.map_cons]
      rw [ih next, List.append_assoc, List.singleton_append]

private theorem length_sentFrames_reactAll (node : Node) (calls : List Call) :
    (sentFrames ((node.reactAll calls).1.flatMap Reaction.effects)).length =
      ((node.reactAll calls).1.map Reaction.outcome).countP Outcome.isForward +
        ((node.reactAll calls).1.map Reaction.outcome).countP Outcome.isReply := by
  induction calls generalizing node with
  | nil => rfl
  | cons call rest ih =>
      have first := call.length_sentFrames_react node
      have others := ih (call.react node).node
      simp only [reactAll, List.map_cons, List.flatMap_cons, List.countP_cons]
      rw [sentFrames, List.filterMap_append, List.length_append]
      unfold sentFrames at first others
      omega

/-- The counters of a relay that starts at zero, after any calls: each is the number
of calls that came to one kind of end. Together they account for every frame that was
received, for every send that failed and for every frame that went out. -/
theorem counters_add_up (node : Node) (calls : List Call) :
    let run := reactAll { node with tally := {} } calls
    let tally := run.2.tally
    let outcomes := run.1.map Reaction.outcome
    let failedForwards := outcomes.countP Outcome.isForwardFailure
    let failedReplies := outcomes.countP Outcome.isReplyFailure
    tally = Tally.ofOutcomes outcomes ∧
      tally.received = calls.length ∧
      tally.received =
        tally.short + tally.corrupt + tally.malformed + tally.expired + tally.duplicate +
          tally.delivered + tally.forwarded + failedForwards ∧
      tally.sendFailures = failedForwards + failedReplies ∧
      failedReplies ≤ tally.delivered ∧
      tally.forwarded + outcomes.countP Outcome.isReply =
        (sentFrames (run.1.flatMap Reaction.effects)).length := by
  intro run tally outcomes failedForwards failedReplies
  have counted : tally = Tally.ofOutcomes outcomes :=
    @tally_reactAll { node with tally := {} } [] rfl calls
  have calledOnce : outcomes.length = calls.length := by
    rw [List.length_map]
    exact length_reactAll _ _
  refine ⟨counted, ?_, ?_, ?_, ?_, ?_⟩
  · rw [counted]
    exact calledOnce
  · rw [counted]
    exact Tally.received_ofOutcomes outcomes
  · rw [counted]
    rfl
  · rw [counted]
    exact Tally.replyFailures_le outcomes
  · rw [counted]
    exact (length_sentFrames_reactAll _ _).symm

end Node

end FloodMesh
