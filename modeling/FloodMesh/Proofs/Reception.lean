/-
One reception: a station takes its oldest waiting frame and its node handles it.

A reception chooses the station, what its radio answers to a send at that
moment, and the second of the clock. Sequences of receptions are therefore all
orders of stations under all outcomes of sends.
-/

import FloodMesh.Proofs.Air

namespace FloodMesh.Mesh

structure Reception where
  index : Nat
  verdict : Verdict
  now : Nat

def tuned (mesh : Mesh) (index : Nat) (verdict : Verdict) : Mesh :=
  { mesh with medium := mesh.medium.setVerdict index verdict }

def hear? (mesh : Mesh) (reception : Reception) : Option (Event × Mesh) :=
  (mesh.tuned reception.index reception.verdict).receive? reception.index reception.now

/-- A sequence of receptions, or none if one finds nothing to take. -/
def hearAll? (mesh : Mesh) : List Reception → Option Mesh
  | [] => some mesh
  | reception :: rest => (mesh.hear? reception).bind fun heard => heard.2.hearAll? rest

def Reception.surroundings (reception : Reception) : Surroundings :=
  { verdict := reception.verdict, now := reception.now }

def Reception.reaction (reception : Reception) (node : Node) (waiting : Bytes) : Reaction :=
  node.process reception.surroundings (waiting.take Inbox.bufferLength)

def Reception.event (reception : Reception) (node : Node) (waiting : Bytes) : Event :=
  { index := reception.index
    outcome := (reception.reaction node waiting).outcome
    effects := (reception.reaction node waiting).effects }

private theorem took_of_tuned {mesh : Mesh} {index : Nat} {verdict : Verdict} {taken : Medium}
    {rest : List Bytes} (took : Medium.Took (mesh.tuned index verdict).medium taken index rest) :
    Medium.Took mesh.medium taken index rest where
  waitingAt other := by
    rw [took.waitingAt, tuned, Medium.waitingAt_setVerdict]
  transmissions other := by
    rw [took.transmissions]
    exact Medium.transmissions_setVerdict ..
  linked := took.linked
  length := took.length.trans (Medium.length_setVerdict ..)
  unlimited free := took.unlimited (Medium.unlimited_setVerdict index verdict free)

theorem hear?_eq_some {mesh later : Mesh} {reception : Reception} {event : Event}
    (heard : mesh.hear? reception = some (event, later)) :
    ∃ node first rest taken,
      mesh.nodes[reception.index]? = some node ∧
        mesh.medium.waitingAt reception.index = first :: rest ∧
        reception.index < mesh.medium.stations.length ∧
        Medium.Took mesh.medium taken reception.index rest ∧
        event = reception.event node first ∧
        later =
          { medium := carry taken reception.index (reception.reaction node first).effects
            nodes := mesh.nodes.set reception.index (reception.reaction node first).node } := by
  unfold hear? receive? at heard
  cases taking : (mesh.tuned reception.index reception.verdict).medium.receive?
      reception.index Inbox.bufferLength with
  | none =>
      rw [taking] at heard
      cases heard
  | some pair =>
      obtain ⟨frame, taken⟩ := pair
      obtain ⟨first, rest, waits, frameEq, attached, took, sameVerdict⟩ :=
        Medium.receive?_eq_some taking
      have nearby : taken.verdictOf reception.index = reception.verdict := by
        rw [sameVerdict]
        exact Medium.verdictOf_setVerdict reception.verdict
          (by rwa [tuned, Medium.length_setVerdict] at attached)
      rw [taking] at heard
      cases found : mesh.nodes[reception.index]? with
      | none => simp [process?, tuned, found] at heard
      | some node =>
          simp only [Option.bind_eq_bind, Option.bind_some, process?, tuned, found, commit,
            Option.pure_def, Option.some.injEq, Prod.mk.injEq, surroundings, nearby] at heard
          obtain ⟨eventEq, laterEq⟩ := heard
          subst frameEq eventEq laterEq
          refine ⟨node, first, rest, taken, rfl, ?_, ?_, took_of_tuned took, rfl, rfl⟩
          · rwa [tuned, Medium.waitingAt_setVerdict] at waits
          · rwa [tuned, Medium.length_setVerdict] at attached

end FloodMesh.Mesh
