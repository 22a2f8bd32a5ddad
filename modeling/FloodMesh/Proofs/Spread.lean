/-
How a flood spreads when its copies are taken in the order they were sent.

A packet sets out from its origin with a hop budget. Every station acts on the
first copy it takes that is not spent, and all but the target send it on with
one hop less. Copies with more hops left were sent earlier, so the first copy
that a station takes is one that came on a shortest way. Which stations act,
and with how many hops left, is then a matter of distances alone.
-/

import Mathlib.Combinatorics.SimpleGraph.Metric

namespace FloodMesh

structure Visit where
  station : Nat
  hops : Nat

/-- A copy with so many hops brings a station nothing new, or it is on its way
there, or the station has acted on one with no fewer hops. -/
def Covered (origin : Nat) (pending acted : List Visit) (station hops : Nat) : Prop :=
  hops = 0 ∨ station = origin ∨ { station, hops } ∈ pending ∨
    ∃ act ∈ acted, act.station = station ∧ hops ≤ act.hops

/-- The copies on their way, oldest first, and the copies that were acted on, at
any moment of an orderly flood. -/
structure Spread (graph : SimpleGraph Nat) (origin target budget : Nat)
    (pending acted : List Visit) : Prop where
  nearPending : ∀ copy ∈ pending, copy.hops ≤ budget ∧
    graph.edist origin copy.station ≤ (budget + 1 - copy.hops : Nat)
  nearActed : ∀ act ∈ acted, act.hops ≤ budget ∧
    graph.edist origin act.station ≤ (budget + 1 - act.hops : Nat)
  alive : ∀ act ∈ acted, act.hops ≠ 0
  once : (acted.map Visit.station).Nodup
  /-- The hops never rise along the queue, and the last has at most one less
  than the first. -/
  falling : pending.Pairwise fun earlier later => later.hops ≤ earlier.hops
  close : ∀ first ∈ pending, ∀ second ∈ pending, first.hops ≤ second.hops + 1
  behind : ∀ act ∈ acted, ∀ copy ∈ pending, copy.hops ≤ act.hops
  fromOrigin : ∀ station, graph.Adj origin station →
    Covered origin pending acted station budget
  fromActed : ∀ act ∈ acted, act.station ≠ target → ∀ station,
    graph.Adj act.station station → Covered origin pending acted station (act.hops - 1)

namespace Spread

variable {graph : SimpleGraph Nat} {origin target budget : Nat} {rest acted : List Visit}
  {copy : Visit}

/-- The origin has just put the packet on the air. -/
theorem start {sent : List Visit}
    (sends : ∀ visit ∈ sent, visit.hops = budget ∧ graph.Adj origin visit.station)
    (reaches : ∀ station, graph.Adj origin station → { station, hops := budget } ∈ sent) :
    Spread graph origin target budget sent [] where
  nearPending visit member := by
    obtain ⟨hopsEq, adjacent⟩ := sends visit member
    have one : budget + 1 - visit.hops = 1 := by omega
    rw [one]
    exact ⟨hopsEq.le, (SimpleGraph.edist_eq_one_iff_adj.mpr adjacent).le⟩
  nearActed act impossible := by cases impossible
  alive act impossible := by cases impossible
  once := List.nodup_nil
  falling := by
    rw [List.pairwise_iff_forall_sublist]
    intro first second both
    rw [(sends first (both.subset (by simp))).1, (sends second (both.subset (by simp))).1]
  close first firstSent second secondSent := by
    have firstHops := (sends first firstSent).1
    have secondHops := (sends second secondSent).1
    omega
  behind act impossible := by cases impossible
  fromOrigin station adjacent := .inr (.inr (.inl (reaches station adjacent)))
  fromActed act impossible := by cases impossible

private theorem covered_pass
    (spread : Spread graph origin target budget (copy :: rest) acted)
    (idle : copy.hops = 0 ∨ copy.station = origin ∨ ∃ act ∈ acted, act.station = copy.station)
    {station hops : Nat} (covered : Covered origin (copy :: rest) acted station hops) :
    Covered origin rest acted station hops := by
  rcases covered with spent | home | waits | done
  · exact .inl spent
  · exact .inr (.inl home)
  · rcases List.mem_cons.mp waits with same | later
    · subst same
      rcases idle with spent | home | ⟨act, member, here⟩
      · exact .inl spent
      · exact .inr (.inl home)
      -- What was acted on earlier had no fewer hops, and so covers this copy too.
      · exact .inr (.inr (.inr
          ⟨act, member, here, spread.behind act member _ List.mem_cons_self⟩))
    · exact .inr (.inr (.inl later))
  · exact .inr (.inr (.inr done))

theorem pass (spread : Spread graph origin target budget (copy :: rest) acted)
    (idle : copy.hops = 0 ∨ copy.station = origin ∨
      ∃ act ∈ acted, act.station = copy.station) :
    Spread graph origin target budget rest acted where
  nearPending visit member := spread.nearPending visit (List.mem_cons_of_mem _ member)
  nearActed := spread.nearActed
  alive := spread.alive
  once := spread.once
  falling := (List.pairwise_cons.mp spread.falling).2
  close first firstWaits second secondWaits :=
    spread.close first (List.mem_cons_of_mem _ firstWaits) second
      (List.mem_cons_of_mem _ secondWaits)
  behind act member visit waits := spread.behind act member visit (List.mem_cons_of_mem _ waits)
  fromOrigin station adjacent := spread.covered_pass idle (spread.fromOrigin station adjacent)
  fromActed act member passesOn station adjacent :=
    spread.covered_pass idle (spread.fromActed act member passesOn station adjacent)

private theorem covered_act {sent : List Visit} {station hops : Nat}
    (covered : Covered origin (copy :: rest) acted station hops) :
    Covered origin (rest ++ sent) (acted ++ [copy]) station hops := by
  rcases covered with spent | home | waits | ⟨act, member, done⟩
  · exact .inl spent
  · exact .inr (.inl home)
  · rcases List.mem_cons.mp waits with same | later
    · subst same
      exact .inr (.inr (.inr ⟨_, List.mem_append_right _ (List.mem_singleton_self _), rfl,
        Nat.le_refl _⟩))
    · exact .inr (.inr (.inl (List.mem_append_left _ later)))
  · exact .inr (.inr (.inr ⟨act, List.mem_append_left _ member, done⟩))

/-- The oldest copy is acted on, and its station may send it on. -/
theorem act (spread : Spread graph origin target budget (copy :: rest) acted)
    (alive : copy.hops ≠ 0) (new : ∀ act ∈ acted, act.station ≠ copy.station)
    {sent : List Visit}
    (sends : ∀ visit ∈ sent, visit.hops = copy.hops - 1 ∧
      graph.Adj copy.station visit.station)
    (reaches : copy.station ≠ target → ∀ station, graph.Adj copy.station station →
      { station, hops := copy.hops - 1 } ∈ sent) :
    Spread graph origin target budget (rest ++ sent) (acted ++ [copy]) := by
  obtain ⟨within, near⟩ := spread.nearPending copy List.mem_cons_self
  obtain ⟨first, others⟩ := List.pairwise_cons.mp spread.falling
  -- The new copies have one hop less than the oldest, and no other has fewer.
  have lowest : ∀ visit ∈ rest, copy.hops ≤ visit.hops + 1 := fun visit member =>
    spread.close copy List.mem_cons_self visit (List.mem_cons_of_mem _ member)
  constructor
  · intro visit member
    rcases List.mem_append.mp member with old | new
    · exact spread.nearPending visit (List.mem_cons_of_mem _ old)
    · obtain ⟨hopsEq, adjacent⟩ := sends visit new
      have farther : budget + 1 - visit.hops = budget + 1 - copy.hops + 1 := by omega
      refine ⟨by omega, ?_⟩
      calc graph.edist origin visit.station
          ≤ graph.edist origin copy.station + graph.edist copy.station visit.station :=
            SimpleGraph.edist_triangle
        _ ≤ (budget + 1 - copy.hops : Nat) + 1 :=
            add_le_add near (SimpleGraph.edist_eq_one_iff_adj.mpr adjacent).le
        _ = (budget + 1 - visit.hops : Nat) := by
            rw [farther]
            exact (Nat.cast_succ _).symm
  · intro act member
    rcases List.mem_append.mp member with old | last
    · exact spread.nearActed act old
    · rw [List.mem_singleton.mp last]
      exact ⟨within, near⟩
  · intro act member
    rcases List.mem_append.mp member with old | last
    · exact spread.alive act old
    · rw [List.mem_singleton.mp last]
      exact alive
  · rw [List.map_append, List.map_singleton, ← List.concat_eq_append]
    apply List.Nodup.concat _ spread.once
    intro again
    obtain ⟨act, member, same⟩ := List.mem_map.mp again
    exact new act member same
  · rw [List.pairwise_append]
    refine ⟨others, ?_, ?_⟩
    · rw [List.pairwise_iff_forall_sublist]
      intro earlier later both
      rw [(sends earlier (both.subset (by simp))).1, (sends later (both.subset (by simp))).1]
    · intro earlier waits later new
      have hopsEq := (sends later new).1
      have above := lowest earlier waits
      omega
  · intro earlier earlierWaits later laterWaits
    have bounds : ∀ visit ∈ rest ++ sent,
        visit.hops ≤ copy.hops ∧ copy.hops ≤ visit.hops + 1 := by
      intro visit member
      rcases List.mem_append.mp member with old | new
      · exact ⟨first visit old, lowest visit old⟩
      · have hopsEq := (sends visit new).1
        omega
    have earlierBounds := bounds earlier earlierWaits
    have laterBounds := bounds later laterWaits
    omega
  · intro act member visit waits
    have least : copy.hops ≤ act.hops := by
      rcases List.mem_append.mp member with old | last
      · exact spread.behind act old copy List.mem_cons_self
      · rw [List.mem_singleton.mp last]
    rcases List.mem_append.mp waits with old | new
    · exact (first visit old).trans least
    · have hopsEq := (sends visit new).1
      omega
  · exact fun station adjacent => covered_act (spread.fromOrigin station adjacent)
  · intro act member passesOn station adjacent
    rcases List.mem_append.mp member with old | last
    · exact covered_act (spread.fromActed act old passesOn station adjacent)
    · rw [List.mem_singleton.mp last] at passesOn adjacent ⊢
      exact .inr (.inr (.inl (List.mem_append_right _ (reaches passesOn station adjacent))))

/-! ### At the end -/

private theorem exists_before {distance : Nat} {station : Nat}
    (far : graph.edist origin station = (distance + 1 : Nat)) :
    ∃ before, graph.edist origin before = distance ∧ graph.Adj before station := by
  obtain ⟨walk, lengthEq⟩ := SimpleGraph.exists_walk_of_edist_eq_coe far
  obtain ⟨before, adjacent, tail, walkEq⟩ : ∃ before, ∃ _ : graph.Adj station before,
      ∃ tail : graph.Walk before origin, tail.length = distance := by
    have reversed := walk.length_reverse
    cases back : walk.reverse with
    | nil =>
        rw [back] at reversed
        simp only [SimpleGraph.Walk.length_nil] at reversed
        omega
    | @cons _ before _ adjacent tail =>
        rw [back, SimpleGraph.Walk.length_cons] at reversed
        exact ⟨before, adjacent, tail, by omega⟩
  refine ⟨before, le_antisymm ?_ ?_, adjacent.symm⟩
  · rw [SimpleGraph.edist_comm, ← walkEq]
    exact tail.edist_le
  · have triangle : graph.edist origin station ≤ graph.edist origin before + 1 :=
      SimpleGraph.edist_triangle.trans
        (add_le_add le_rfl (SimpleGraph.edist_eq_one_iff_adj.mpr adjacent.symm).le)
    rw [far, Nat.cast_succ] at triangle
    exact (ENat.add_le_add_iff_right ENat.one_ne_top).mp triangle

/-- Once nothing is under way, every station up to the target that the budget
reaches has acted, and on a copy that came on a shortest way. -/
theorem acts (spread : Spread graph origin target budget [] acted) {distance : Nat}
    {station : Nat} (far : graph.edist origin station = (distance + 1 : Nat))
    (within : distance < budget)
    (noFarther : (distance + 1 : Nat) ≤ graph.edist origin target) :
    ∃ act ∈ acted, act.station = station ∧ budget ≤ distance + act.hops := by
  have away {place distance : Nat} (far : graph.edist origin place = (distance + 1 : Nat)) :
      place ≠ origin := by
    intro same
    rw [same, SimpleGraph.edist_self] at far
    exact absurd far.symm (by exact_mod_cast Nat.succ_ne_zero distance)
  -- By induction on the distance: a shortest way comes in from a station that is one nearer.
  induction distance generalizing station with
  | zero =>
      have adjacent : graph.Adj origin station := SimpleGraph.edist_eq_one_iff_adj.mp far
      rcases spread.fromOrigin station adjacent with spent | home | waits | done
      · omega
      · exact absurd home (away far)
      · cases waits
      · obtain ⟨act, member, here, hops⟩ := done
        exact ⟨act, member, here, by omega⟩
  | succ distance ih =>
      obtain ⟨before, nearer, adjacent⟩ := exists_before far
      have less : ((distance + 1 : Nat) : ℕ∞) < (distance + 1 + 1 : Nat) := by
        exact_mod_cast Nat.lt_succ_self _
      obtain ⟨act, member, here, hops⟩ :=
        ih nearer (by omega) (less.le.trans noFarther)
      -- Who is nearer than the target is not the target, and so sends the copy on.
      have passesOn : act.station ≠ target := by
        intro same
        rw [← same, here, nearer] at noFarther
        exact absurd less (not_lt_of_ge noFarther)
      rw [← here] at adjacent
      rcases spread.fromActed act member passesOn station adjacent with
        spent | home | waits | done
      · omega
      · exact absurd home (away far)
      · cases waits
      · obtain ⟨next, nextMember, there, more⟩ := done
        exact ⟨next, nextMember, there, by omega⟩

theorem within_budget {pending : List Visit}
    (spread : Spread graph origin target budget pending acted) {act : Visit}
    (member : act ∈ acted) : graph.edist origin act.station ≤ budget := by
  have alive := spread.alive act member
  obtain ⟨_, near⟩ := spread.nearActed act member
  exact near.trans (by exact_mod_cast (by omega : budget + 1 - act.hops ≤ budget))

/-- Once nothing is under way, the target has acted if and only if it is within
the budget. -/
theorem target_iff (spread : Spread graph origin target budget [] acted)
    (apart : origin ≠ target) :
    (∃ act ∈ acted, act.station = target) ↔ graph.edist origin target ≤ budget := by
  constructor
  · rintro ⟨act, member, rfl⟩
    exact spread.within_budget member
  · intro near
    obtain ⟨distance, distanceEq, within⟩ := ENat.le_natCast_iff.mp near
    cases distance with
    | zero => exact absurd (SimpleGraph.edist_eq_zero_iff.mp distanceEq) apart
    | succ distance =>
        obtain ⟨act, member, here, _⟩ := spread.acts distanceEq within distanceEq.ge
        exact ⟨act, member, here⟩

/-- What is left of the budget where the target acts is what its distance leaves. -/
theorem hops_of_target (spread : Spread graph origin target budget [] acted)
    (apart : origin ≠ target) {act : Visit} (member : act ∈ acted)
    (here : act.station = target) :
    graph.edist origin target = (budget + 1 - act.hops : Nat) := by
  obtain ⟨few, near⟩ := spread.nearActed act member
  rw [here] at near
  apply le_antisymm near
  have reached := spread.within_budget member
  rw [here] at reached
  obtain ⟨distance, distanceEq, within⟩ := ENat.le_natCast_iff.mp reached
  cases distance with
  | zero => exact absurd (SimpleGraph.edist_eq_zero_iff.mp distanceEq) apart
  | succ distance =>
      obtain ⟨other, otherMember, there, enough⟩ := spread.acts distanceEq within distanceEq.ge
      -- A station acts once, so this act is the one on a copy that came on a shortest way.
      have same : other = act :=
        List.inj_on_of_nodup_map spread.once otherMember member (there.trans here.symm)
      rw [same] at enough
      rw [distanceEq]
      exact_mod_cast (by omega : budget + 1 - act.hops ≤ distance + 1)

end Spread

end FloodMesh
