/-
A relay acts on a fingerprint twice only if others have pushed it out.

From the memory's point of view a life is a chain of shifts. Once a fingerprint
is inserted, it stays in the ring and in what the store keeps, and behind it
stand only fingerprints that were inserted later. While these are fewer than
the capacity, the guard against duplicates holds, also across a restart,
because the memory is saved before the frame is acted on.
-/

import FloodMesh.Proofs.Life
import Mathlib

namespace FloodMesh

/-! ### Shifts of a memory -/

/-- What one record does to a memory and its kept copy. `history` is what was
recorded before. -/
inductive Shift {σ : Type} (store : Store σ) (history : List Record) :
    Cache σ → Record → Cache σ → Prop
  | inserts {cache : Cache σ} {fingerprint : Fingerprint} {ring : Ring}
      (changed : cache.ring.insert? fingerprint = some ring) :
      Shift store history cache
        { moment := .inserts fingerprint ring.snapshot, capacity := cache.ring.capacity }
        (cache.adopt store ring)
  | acts {cache : Cache σ} {fingerprint : Fingerprint}
      (prompted : cache.ring.capacity = 0 ∨ ∃ earlier snapshot,
        history = earlier ++
          [{ moment := .inserts fingerprint snapshot, capacity := cache.ring.capacity }]) :
      Shift store history cache
        { moment := .acts fingerprint, capacity := cache.ring.capacity } cache
  | does {cache : Cache σ} {effect : Effect} (visible : effect.isSave = false) :
      Shift store history cache
        { moment := .does effect, capacity := cache.ring.capacity } cache
  | resizes {cache : Cache σ} {ring : Ring} (capacity : Nat)
      (changed : cache.ring.resize? capacity = some ring) :
      Shift store history cache
        { moment := .resizes ring.snapshot, capacity } (cache.adopt store ring)
  | restarts {cache : Cache σ} (capacity : Nat) :
      Shift store history cache
        { moment := .restarts, capacity } (Cache.restore store capacity cache.kept)

inductive Chain {σ : Type} (store : Store σ) (start : Cache σ) :
    List Record → Cache σ → Prop
  | nil : Chain store start [] start
  | snoc {history : List Record} {cache later : Cache σ} {record : Record}
      (chain : Chain store start history cache)
      (shift : Shift store history cache record later) :
      Chain store start (history ++ [record]) later

section Chains

variable {σ : Type} {store : Store σ} {start cache : Cache σ}

private theorem Chain.snoc_inv {history : List Record} {record : Record} {later : Cache σ}
    (chain : Chain store start (history ++ [record]) later) :
    ∃ cache, Chain store start history cache ∧ Shift store history cache record later := by
  generalize wholeEq : history ++ [record] = whole at chain
  cases chain with
  | nil => simp at wholeEq
  | snoc earlier shift =>
      obtain ⟨rfl, same⟩ := List.append_inj' wholeEq rfl
      cases same
      exact ⟨_, earlier, shift⟩

private theorem Chain.front {first second : List Record}
    (chain : Chain store start (first ++ second) cache) :
    ∃ middle, Chain store start first middle := by
  induction second using List.reverseRecOn generalizing cache with
  | nil =>
      rw [List.append_nil] at chain
      exact ⟨cache, chain⟩
  | append_singleton rest record ih =>
      rw [← List.append_assoc] at chain
      obtain ⟨_, shorter, _⟩ := chain.snoc_inv
      exact ih shorter

/-- What is kept depends on what was to be seen only. -/
theorem Chain.kept_eq {history : List Record} (chain : Chain store start history cache) :
    cache.kept = Life.keepAll store start.kept (history.map Record.moment) := by
  induction chain with
  | nil => rfl
  | @snoc history cache later record chain shift ih =>
      unfold Life.keepAll at ih ⊢
      rw [List.map_append, seen_append, List.foldl_append, ← ih]
      cases shift with
      | inserts changed => rfl
      | acts prompted => rfl
      | does visible => exact (store.keep_of_visible _ visible).symm
      | resizes capacity changed => rfl
      | restarts capacity => rfl

private theorem Chain.fit_kept {fit : σ → Prop} (faithful : store.Faithful fit)
    (fitting : fit start.kept) {history : List Record}
    (chain : Chain store start history cache) : fit cache.kept := by
  induction chain with
  | nil => exact fitting
  | snoc chain shift ih =>
      cases shift with
      | inserts changed => exact faithful.fit_save _ _ ih
      | acts prompted => exact ih
      | does visible => exact ih
      | resizes capacity changed => exact faithful.fit_save _ _ ih
      | restarts capacity => exact ih

private theorem Chain.nodup (distinct : start.ring.entries.Nodup) {history : List Record}
    (chain : Chain store start history cache) : cache.ring.entries.Nodup := by
  induction chain with
  | nil => exact distinct
  | snoc chain shift ih =>
      cases shift with
      | inserts changed =>
          rw [Cache.adopt, ← Ring.insert_eq_of_changed changed]
          exact Ring.nodup_insert ih _
      | acts prompted => exact ih
      | does visible => exact ih
      | resizes capacity changed =>
          rw [Cache.adopt, ← Ring.resize_eq_of_changed changed]
          exact Ring.nodup_resize ih capacity
      | restarts capacity => exact Ring.nodup_restore _ _

/-! ### Lives are chains -/

private theorem Chain.insertions {history : List Record} {ring : Ring} {kept : σ}
    (chain : Chain store start history { ring, kept }) (fingerprints : List Fingerprint) :
    ∃ later, Chain store start
      (history ++ recorded ring.capacity (insertions ring fingerprints))
      { ring := fingerprints.foldl Ring.insert ring, kept := later } := by
  induction fingerprints generalizing history ring kept with
  | nil =>
      refine ⟨kept, ?_⟩
      rw [FloodMesh.insertions, recorded_nil, List.append_nil]
      exact chain
  | cons fingerprint rest ih =>
      unfold FloodMesh.insertions
      cases changed : ring.insert? fingerprint with
      | none =>
          rw [List.foldl_cons, Ring.insert_eq_of_unchanged changed]
          exact ih chain
      | some later =>
          have grown := chain.snoc (.inserts changed)
          have sameCapacity : later.capacity = ring.capacity := by
            rw [← Ring.insert_eq_of_changed changed, Ring.capacity_insert]
          obtain ⟨final, complete⟩ := ih grown
          rw [sameCapacity, List.append_assoc] at complete
          rw [List.foldl_cons, Ring.insert_eq_of_changed changed]
          exact ⟨final, complete⟩

private theorem Chain.does {history : List Record} (chain : Chain store start history cache)
    {effects : List Effect} (visible : ∀ effect ∈ effects, effect.isSave = false) :
    Chain store start (history ++ recorded cache.ring.capacity (effects.map .does)) cache := by
  induction effects generalizing history with
  | nil =>
      rw [List.map_nil, recorded_nil, List.append_nil]
      exact chain
  | cons effect rest ih =>
      have grown := chain.snoc (.does (visible effect List.mem_cons_self))
      have complete := ih grown fun other member =>
        visible other (List.mem_cons_of_mem _ member)
      rw [List.append_assoc] at complete
      exact complete

/-- The fingerprint of an admitted packet is saved right before the work begins. -/
theorem Chain.acts {history : List Record} {ring : Ring} {kept : σ} {fingerprint : Fingerprint}
    (chain : Chain store start history { ring, kept }) (new : fingerprint ∉ ring.entries) :
    ∃ later, Chain store start
      (history ++ recorded ring.capacity
        (FloodMesh.insertions ring [fingerprint] ++ [.acts fingerprint]))
      { ring := ring.insert fingerprint, kept := later } := by
  obtain ⟨later, inserted⟩ := chain.insertions [fingerprint]
  have prompted : (ring.insert fingerprint).capacity = 0 ∨ ∃ earlier snapshot,
      history ++ recorded ring.capacity (FloodMesh.insertions ring [fingerprint]) = earlier ++
        [{ moment := .inserts fingerprint snapshot
           capacity := (ring.insert fingerprint).capacity }] := by
    unfold FloodMesh.insertions
    cases changed : ring.insert? fingerprint with
    | none =>
        rcases Ring.insert?_eq_none_iff.mp changed with roomless | known
        · exact .inl (by rw [Ring.capacity_insert, roomless])
        · exact absurd known new
    | some pushed =>
        refine .inr ⟨history, pushed.snapshot, ?_⟩
        rw [Ring.capacity_insert]
        rfl
  have acted := inserted.snoc (.acts prompted)
  refine ⟨later, ?_⟩
  rw [recorded_append, ← List.append_assoc]
  simp only [List.foldl_cons, List.foldl_nil, Ring.capacity_insert] at acted
  exact acted

private theorem Chain.admitted {history : List Record} {life : Life σ}
    (chain : Chain store start history life.cache) {frame : Bytes} {packet : Packet}
    (passed : Node.examine life.node.absorbedRing frame = .ok packet) (outcome : Outcome)
    {done : List Effect} (visible : ∀ effect ∈ done, effect.isSave = false) :
    ∃ later, Chain store start
      (history ++ recorded life.node.ring.capacity (momentsOf life.node frame outcome done))
      { ring := outcome.reply?.toList.foldl Ring.insert
          (life.node.absorbedRing.insert packet.fingerprint)
        kept := later } := by
  have new : packet.fingerprint ∉ life.node.absorbedRing.entries :=
    Ring.contains_eq_false_iff.mp (Node.examine_eq_ok_iff.mp passed).2.2.2.2
  obtain ⟨_, absorbed⟩ := chain.insertions life.node.announced
  obtain ⟨_, acted⟩ := Chain.acts absorbed new
  have worked := acted.does visible
  obtain ⟨final, complete⟩ := worked.insertions outcome.reply?.toList
  have absorbedCapacity := life.node.capacity_absorbedRing
  refine ⟨final, ?_⟩
  unfold momentsOf
  rw [passed]
  simp only [Ring.capacity_insert, Ring.capacity_foldl_insert, recorded_append,
    List.append_assoc] at complete ⊢
  exact complete

/-- The work on a frame is a chain. -/
theorem Chain.course {history : List Record} {life : Life σ}
    (chain : Chain store start history life.cache) {surroundings : Surroundings}
    {frame : Bytes} {outcome : Outcome} {done : List Effect} {ring : Ring}
    (course : Course life.node surroundings frame outcome done ring)
    (visible : ∀ effect ∈ done, effect.isSave = false) :
    ∃ later, Chain store start
      (history ++ recorded life.node.ring.capacity (momentsOf life.node frame outcome done))
      { ring, kept := later } := by
  cases course with
  | dropped refused =>
      unfold momentsOf
      rw [refused, List.append_nil]
      exact chain.insertions life.node.announced
  | forwarded admitted foreign accepted => exact chain.admitted admitted _ visible
  | forwardFailed admitted foreign refused => exact chain.admitted admitted _ visible
  | queued admitted own duty content entryEq => exact chain.admitted admitted _ visible
  | reported admitted own duty content => exact chain.admitted admitted _ visible
  | ignored admitted own idle => exact chain.admitted admitted _ visible
  | replied admitted own duty asked accepted => exact chain.admitted admitted _ visible
  | replyFailed admitted own duty asked refused => exact chain.admitted admitted _ visible

/-- Every deed is a chain. -/
theorem Chain.deed {history : List Record} {life : Life σ}
    (chain : Chain store start history life.cache) (deed : Deed) :
    ∃ later, Chain store start
      (history ++ recorded (deed.result life.node).ring.capacity (deed.moments life.node))
      { ring := (deed.result life.node).ring, kept := later } := by
  cases deed with
  | hears surroundings frame =>
      have course := course_process life.node surroundings frame
      have visible : ∀ effect ∈ deeds (life.node.process surroundings frame).effects,
          effect.isSave = false := by
        intro effect member
        have notSave := (List.mem_filter.mp member).2
        simpa using notSave
      have sameCapacity := course.capacity
      simp only [Deed.result, Deed.moments]
      rw [sameCapacity]
      exact chain.course course visible
  | announces fingerprint =>
      refine ⟨life.kept, ?_⟩
      simp only [Deed.moments, recorded_nil, List.append_nil]
      exact chain
  | resizes capacity =>
      simp only [Deed.result, Deed.moments]
      unfold resizing
      cases changed : life.node.ring.resize? capacity with
      | none =>
          refine ⟨life.kept, ?_⟩
          simp only [recorded_nil, List.append_nil]
          rw [Ring.resize_eq_of_unchanged changed]
          exact chain
      | some later =>
          have grown := chain.snoc (.resizes capacity changed)
          rw [Ring.capacity_resize, Ring.resize_eq_of_changed changed]
          exact ⟨_, grown⟩

/-- What is kept after some more moments. -/
theorem Chain.kept_after {history : List Record} {earlier : Cache σ}
    (before : Chain store start history earlier) {capacity : Nat} {moments : List Moment}
    (whole : Chain store start (history ++ recorded capacity moments) cache) :
    cache.kept = Life.keepAll store earlier.kept moments := by
  rw [whole.kept_eq, List.map_append, moments_recorded, Life.keepAll_append, ← before.kept_eq]

/-- Every episode is a chain, whether it ends in a crash or not. -/
theorem Chain.live {history : List Record} {life : Life σ}
    (chain : Chain store start history life.cache) (episode : Episode) :
    Chain store start (history ++ (life.live store episode).1)
      (life.live store episode).2.cache := by
  obtain ⟨later, whole⟩ := chain.deed episode.deed
  unfold Life.live
  cases episode.crash with
  | none =>
      have keptEq := Chain.kept_after chain whole
      simp only at keptEq
      rw [keptEq] at whole
      exact whole
  | some crash =>
      rw [← List.take_append_drop crash.after (episode.deed.moments life.node),
        recorded_append, ← List.append_assoc] at whole
      obtain ⟨middle, cut⟩ := whole.front
      have keptEq := Chain.kept_after chain cut
      have restarted := cut.snoc (.restarts crash.capacity)
      rw [keptEq, List.append_assoc] at restarted
      exact restarted

private theorem Chain.run {history : List Record} {life : Life σ}
    (chain : Chain store start history life.cache) (episodes : List Episode) :
    Chain store start (history ++ (life.run store episodes).1)
      (life.run store episodes).2.cache := by
  induction episodes generalizing history life with
  | nil =>
      rw [show (life.run store []).1 = [] from rfl, List.append_nil]
      exact chain
  | cons episode rest ih =>
      have complete := ih (chain.live episode)
      rw [List.append_assoc] at complete
      exact complete

end Chains

/-! ### What stands behind a fingerprint -/

/-- The fingerprint is among these, which are all different, and behind it stand
only some of the others. -/
structure Holds (fingerprint : Fingerprint) (others : Finset Fingerprint)
    (items : List Fingerprint) : Prop where
  distinct : items.Nodup
  placed : ∃ older newer, items = older ++ fingerprint :: newer ∧
    ∀ item ∈ newer, item ∈ others

namespace Holds

variable {fingerprint : Fingerprint} {others more : Finset Fingerprint}
  {items : List Fingerprint}

theorem mem (held : Holds fingerprint others items) : fingerprint ∈ items := by
  obtain ⟨older, newer, split, _⟩ := held.placed
  rw [split]
  simp

theorem mono (held : Holds fingerprint others items) (grown : others ⊆ more) :
    Holds fingerprint more items := by
  obtain ⟨older, newer, split, among⟩ := held.placed
  exact ⟨held.distinct, older, newer, split, fun item member => grown (among item member)⟩

/-- A list cut to more items than there are others still holds the fingerprint. -/
theorem newest (held : Holds fingerprint others items) {capacity : Nat}
    (few : others.card < capacity) :
    Holds fingerprint others (newest capacity items) := by
  obtain ⟨older, newer, split, among⟩ := held.placed
  have newerDistinct : newer.Nodup := by
    have distinct := held.distinct
    rw [split] at distinct
    exact (List.nodup_cons.mp (List.nodup_append.mp distinct).2.1).2
  have bounded : newer.length ≤ others.card := by
    rw [← List.toFinset_card_of_nodup newerDistinct]
    apply Finset.card_le_card
    intro item member
    exact among item (List.mem_toFinset.mp member)
  refine ⟨Ring.nodup_of_suffix (newest_suffix _ _) held.distinct, ?_⟩
  refine ⟨FloodMesh.newest (capacity - (fingerprint :: newer).length) older, newer, ?_, among⟩
  rw [split, newest_append_of_le]
  rw [List.length_cons]
  omega

theorem push (held : Holds fingerprint others items) {item : Fingerprint}
    (new : item ∉ items) (counted : item ∈ others) :
    Holds fingerprint others (items ++ [item]) := by
  obtain ⟨older, newer, split, among⟩ := held.placed
  constructor
  · rw [← List.concat_eq_append]
    exact .concat new held.distinct
  · refine ⟨older, newer ++ [item], by simp [split], ?_⟩
    intro other member
    rcases List.mem_append.mp member with inNewer | last
    · exact among other inNewer
    · rw [List.mem_singleton.mp last]
      exact counted

theorem last (distinct : items.Nodup) (new : fingerprint ∉ items) :
    Holds fingerprint ∅ (items ++ [fingerprint]) := by
  constructor
  · rw [← List.concat_eq_append]
    exact .concat new distinct
  · refine ⟨items, [], rfl, ?_⟩
    intro item impossible
    cases impossible

end Holds

structure Remembers {σ : Type} (store : Store σ) (fingerprint : Fingerprint)
    (others : Finset Fingerprint) (cache : Cache σ) : Prop where
  inRing : Holds fingerprint others cache.ring.entries
  inStore : ∃ snapshot, store.load cache.kept = .ok (some snapshot) ∧
    Holds fingerprint others snapshot.fingerprints

section Remembering

variable {σ : Type} {store : Store σ} {fit : σ → Prop} {fingerprint : Fingerprint}
  {others more : Finset Fingerprint} {start cache later : Cache σ}

private theorem Remembers.adopt (faithful : store.Faithful fit) (fitting : fit cache.kept)
    {ring : Ring}
    (held : Holds fingerprint others ring.entries) :
    Remembers store fingerprint others (cache.adopt store ring) := by
  refine ⟨held, ring.snapshot, faithful.load_save _ _ fitting, ?_⟩
  rw [Ring.fingerprints_snapshot]
  exact held

/-- No shift makes a memory forget the fingerprint while the others are fewer
than its slots. -/
theorem Remembers.shift (faithful : store.Faithful fit) (fitting : fit cache.kept)
    {history : List Record} {record : Record}
    (remembered : Remembers store fingerprint others cache)
    (shift : Shift store history cache record later) (grown : others ⊆ more)
    (counted : ∀ item, record.moment.inserted? = some item → item ≠ fingerprint → item ∈ more)
    (few : more.card < record.capacity) : Remembers store fingerprint more later := by
  have inRing := remembered.inRing.mono grown
  obtain ⟨snapshot, loaded, inSnapshot⟩ := remembered.inStore
  have inStore := inSnapshot.mono grown
  cases shift with
  | @inserts item ring changed =>
      obtain ⟨room, new, _⟩ := Ring.insert?_eq_some_iff.mp changed
      have different : item ≠ fingerprint := by
        intro same
        rw [same] at new
        exact new inRing.mem
      have held := (inRing.push new (counted item rfl different)).newest few
      rw [← Ring.entries_insert_of_new new, Ring.insert_eq_of_changed changed] at held
      exact .adopt faithful fitting held
  | acts prompted => exact ⟨inRing, snapshot, loaded, inStore⟩
  | does visible => exact ⟨inRing, snapshot, loaded, inStore⟩
  | @resizes ring capacity changed =>
      have held := inRing.newest few
      rw [← Ring.entries_resize inRing.distinct, Ring.resize_eq_of_changed changed] at held
      exact .adopt faithful fitting held
  | restarts capacity =>
      refine ⟨?_, snapshot, loaded, inStore⟩
      unfold Cache.restore
      simp only [loaded]
      rw [Ring.entries_restore capacity inStore.distinct]
      exact inStore.newest few

def othersInserted (fingerprint : Fingerprint) (records : List Record) : Finset Fingerprint :=
  ((records.filterMap fun record => record.moment.inserted?).filter
    fun item => item ≠ fingerprint).toFinset

private theorem othersInserted_subset (fingerprint : Fingerprint) (first second : List Record) :
    othersInserted fingerprint first ⊆ othersInserted fingerprint (first ++ second) := by
  intro item member
  unfold othersInserted at member ⊢
  rw [List.filterMap_append, List.filter_append, List.toFinset_append]
  exact Finset.mem_union_left _ member

private theorem othersInserted_cons_of_acts {record : Record}
    (acted : record.moment = .acts fingerprint)
    (records : List Record) :
    othersInserted fingerprint (record :: records) = othersInserted fingerprint records := by
  have nothing : record.moment.inserted? = none := by
    rw [acted]
    rfl
  unfold othersInserted
  simp only [List.filterMap_cons, nothing]

private theorem mem_othersInserted_snoc {records : List Record} {record : Record}
    {item : Fingerprint}
    (inserted : record.moment.inserted? = some item) (different : item ≠ fingerprint) :
    item ∈ othersInserted fingerprint (records ++ [record]) := by
  unfold othersInserted
  rw [List.mem_toFinset, List.mem_filter, List.mem_filterMap]
  refine ⟨⟨record, by simp, inserted⟩, ?_⟩
  simpa using different

/-- The insertion itself: the fingerprint is the newest, and it is saved. -/
theorem Remembers.inserted (faithful : store.Faithful fit) (fitting : fit cache.kept)
    (distinct : cache.ring.entries.Nodup) {ring : Ring} (roomy : 0 < cache.ring.capacity)
    (changed : cache.ring.insert? fingerprint = some ring) :
    Remembers store fingerprint ∅ (cache.adopt store ring) := by
  obtain ⟨room, new, _⟩ := Ring.insert?_eq_some_iff.mp changed
  have held := (Holds.last distinct new).newest (by rw [Finset.card_empty]; exact roomy)
  rw [← Ring.entries_insert_of_new new, Ring.insert_eq_of_changed changed] at held
  exact .adopt faithful fitting held

/-- From its insertion on a fingerprint is remembered for as long as the others
inserted since are fewer than the slots. -/
theorem Chain.remembers (faithful : store.Faithful fit) (fitting : fit start.kept)
    (distinct : start.ring.entries.Nodup) {history before between : List Record}
    {snapshot : Snapshot} {capacity least : Nat} (chain : Chain store start history cache)
    (split : history = before ++
      { moment := .inserts fingerprint snapshot, capacity } :: between)
    (roomy : least ≤ capacity) (roomyBetween : ∀ record ∈ between, least ≤ record.capacity)
    (few : (othersInserted fingerprint between).card < least) :
    Remembers store fingerprint (othersInserted fingerprint between) cache := by
  induction between using List.reverseRecOn generalizing history cache with
  | nil =>
      rw [split] at chain
      obtain ⟨earlier, front, shift⟩ := chain.snoc_inv
      have fittingFront := front.fit_kept faithful fitting
      have distinctFront := front.nodup distinct
      cases shift with
      | inserts changed =>
          exact .inserted faithful fittingFront distinctFront (by omega) changed
  | append_singleton between last ih =>
      rw [split, ← List.cons_append, ← List.append_assoc] at chain
      obtain ⟨earlier, front, shift⟩ := chain.snoc_inv
      have fittingFront := front.fit_kept faithful fitting
      have grown := othersInserted_subset fingerprint between [last]
      have fewer := Finset.card_le_card grown
      have remembered := ih front rfl
        (fun record member => roomyBetween record (by simp [member])) (by omega)
      have roomyLast := roomyBetween last (by simp)
      exact remembered.shift faithful fittingFront shift grown
        (fun item inserted different => mem_othersInserted_snoc inserted different) (by omega)

end Remembering

/-! ### Acting twice -/

section Twice

variable {σ : Type} {store : Store σ} {fit : σ → Prop} {start cache : Cache σ}

/-- Work with slots free is preceded by its insertion. -/
theorem Chain.acts_inv {history : List Record} {record : Record} {fingerprint : Fingerprint}
    (chain : Chain store start (history ++ [record]) cache)
    (acted : record.moment = .acts fingerprint) (roomy : 1 ≤ record.capacity) :
    ∃ earlier snapshot, history = earlier ++
      [{ moment := .inserts fingerprint snapshot, capacity := record.capacity }] := by
  obtain ⟨_, _, shift⟩ := chain.snoc_inv
  cases shift with
  | @acts item prompted =>
      cases acted
      rcases prompted with roomless | inserted
      · simp only at roomy
        omega
      · exact inserted
  | inserts changed => cases acted
  | does visible => cases acted
  | resizes capacity changed => cases acted
  | restarts capacity => cases acted

private theorem Chain.inserts_inv {history : List Record} {fingerprint : Fingerprint}
    {snapshot : Snapshot} {capacity : Nat}
    (chain : Chain store start
      (history ++ [{ moment := .inserts fingerprint snapshot, capacity }]) cache) :
    ∃ earlier, Chain store start history earlier ∧ fingerprint ∉ earlier.ring.entries := by
  obtain ⟨earlier, front, shift⟩ := chain.snoc_inv
  cases shift with
  | inserts changed =>
      obtain ⟨_, new, _⟩ := Ring.insert?_eq_some_iff.mp changed
      exact ⟨earlier, front, new⟩

private theorem Chain.others_between (faithful : store.Faithful fit) (fitting : fit start.kept)
    (distinct : start.ring.entries.Nodup) {before between after : List Record}
    {first second : Record} {fingerprint : Fingerprint} {least : Nat}
    (chain : Chain store start (before ++ first :: (between ++ second :: after)) cache)
    (firstActs : first.moment = .acts fingerprint)
    (secondActs : second.moment = .acts fingerprint) (positive : 1 ≤ least)
    (roomy : ∀ record ∈ first :: (between ++ [second]), least ≤ record.capacity) :
    least ≤ (othersInserted fingerprint between).card := by
  have roomyFirst := roomy first List.mem_cons_self
  have roomySecond := roomy second (by simp)
  have firstPart : before ++ first :: (between ++ second :: after) =
      (before ++ [first]) ++ (between ++ second :: after) := by simp
  have secondPart : before ++ first :: (between ++ second :: after) =
      ((before ++ first :: between) ++ [second]) ++ after := by simp
  obtain ⟨_, untilFirst⟩ := (firstPart ▸ chain).front
  obtain ⟨_, untilSecond⟩ := (secondPart ▸ chain).front
  obtain ⟨earlier, firstSnapshot, beforeEq⟩ := untilFirst.acts_inv firstActs (by omega)
  obtain ⟨middle, secondSnapshot, middleEq⟩ := untilSecond.acts_inv secondActs (by omega)
  obtain ⟨_, upToSecond⟩ := untilSecond.front
  rw [middleEq] at upToSecond
  obtain ⟨_, upToInsert, new⟩ := upToSecond.inserts_inv
  -- The second insertion lies strictly between, since the first work is none.
  rcases List.eq_nil_or_concat' between with rfl | ⟨rest, last, rfl⟩
  · obtain ⟨_, same⟩ := List.append_inj' middleEq rfl
    cases same
    cases firstActs
  · rw [← List.cons_append, ← List.append_assoc] at middleEq
    obtain ⟨middleIs, _⟩ := List.append_inj' middleEq rfl
    have split : middle = earlier ++
        { moment := .inserts fingerprint firstSnapshot, capacity := first.capacity } ::
          (first :: rest) := by
      rw [← middleIs, beforeEq]
      simp
    have fewer := Finset.card_le_card (othersInserted_subset fingerprint rest [last])
    by_contra tooFew
    have few : (othersInserted fingerprint (first :: rest)).card < least := by
      rw [othersInserted_cons_of_acts firstActs]
      omega
    have roomyBetween : ∀ record ∈ first :: rest, least ≤ record.capacity := by
      intro record member
      apply roomy record
      rcases List.mem_cons.mp member with same | inRest
      · rw [same]
        exact List.mem_cons_self
      · simp [inRest]
    have remembered :=
      upToInsert.remembers faithful fitting distinct split roomyFirst roomyBetween few
    exact new remembered.inRing.mem

end Twice

namespace Life

variable {σ : Type} {store : Store σ} {fit : σ → Prop} {life : Life σ}

private theorem Begun.nodup (begun : life.Begun store) : life.cache.ring.entries.Nodup := by
  cases begun with
  | new fresh capacity kept =>
      rw [show (Life.cache _).ring = Ring.empty capacity from rfl, Ring.entries_empty]
      exact List.nodup_nil
  | restored fresh capacity kept => exact Ring.nodup_restore capacity _

/-- Between two works on one fingerprint at least as many others are inserted as
the memory had slots all the while. The lives are those of any relay over a
faithful store: with any frames, announcements, resizes and answers of radio
and probe, and with crashes between any two moments. -/
theorem others_between_acts (faithful : store.Faithful fit) (fitting : fit life.kept)
    (begun : life.Begun store) (episodes : List Episode)
    {before between after : List Record} {first second : Record} {fingerprint : Fingerprint}
    {least : Nat}
    (split : (life.run store episodes).1 =
      before ++ first :: (between ++ second :: after))
    (firstActs : first.moment = .acts fingerprint)
    (secondActs : second.moment = .acts fingerprint) (positive : 1 ≤ least)
    (roomy : ∀ record ∈ first :: (between ++ [second]), least ≤ record.capacity) :
    least ≤ (othersInserted fingerprint between).card := by
  have fresh : Chain store life.cache [] life.cache := .nil
  have chain := fresh.run episodes
  rw [List.nil_append, split] at chain
  exact chain.others_between faithful fitting begun.nodup firstActs secondActs positive roomy

/-! ### A life with a crash -/

deriving instance DecidableEq for Effect
deriving instance DecidableEq for Moment
deriving instance DecidableEq for Record

def agreeable (slot : Slot) : Prop := slot.refusesSave = false ∧ slot.refusesLoad = false

private theorem faithful_slot : Store.slot.Faithful agreeable := by
  constructor
  · intro snapshot slot ⟨saves, loads⟩
    simp [agreeable, Store.slot, saves, loads]
  · intro snapshot slot ⟨saves, loads⟩
    simp [Store.slot, saves, loads]

def narrowMinded : Node :=
  { address := .numbered 3
    duty := .controller
    ring := Ring.empty 1
    queue := Queue.new 1 }

def narrowLife : Life Slot := { node := narrowMinded, kept := { saved := none } }

/-- A request from node to node that a third one passes on. -/
def passing (fingerprint : Fingerprint) : Packet :=
  { dest := .numbered 1, src := .numbered 2, content := .request 2, hops := 2, fingerprint }

def ones : Fingerprint := { bytes := List.replicate 32 1, length_eq := rfl }

/-- A request is passed on, another is remembered but the power fails, and the
first is passed on again. -/
def forgetfulLife : List Episode :=
  let calm : Surroundings := { verdict := none, now := 0 }
  [ { deed := .hears calm (passing .blank).frame },
    { deed := .hears calm (passing ones).frame
      crash := some { after := 1, capacity := 1, fresh := narrowMinded } },
    { deed := .hears calm (passing .blank).frame } ]

theorem others_between_acts_forgetfulLife :
    1 ≤ (othersInserted .blank
      [ { moment := .does (.sent (passing .blank).passedOn.frame), capacity := 1 },
        { moment := .inserts ones { capacity := 1, entries := [ones.hex] }, capacity := 1 },
        { moment := .restarts, capacity := 1 },
        { moment := .inserts .blank { capacity := 1, entries := [Fingerprint.blank.hex] }
          capacity := 1 } ]).card := by
  have begun : narrowLife.Begun Store.slot := .new narrowMinded 1 ({ saved := none } : Slot)
  have split : (narrowLife.run Store.slot forgetfulLife).1 =
      [ { moment := .inserts .blank { capacity := 1, entries := [Fingerprint.blank.hex] }
          capacity := 1 } ] ++
      { moment := .acts .blank, capacity := 1 } ::
        ([ { moment := .does (.sent (passing .blank).passedOn.frame), capacity := 1 },
          { moment := .inserts ones { capacity := 1, entries := [ones.hex] }, capacity := 1 },
          { moment := .restarts, capacity := 1 },
          { moment := .inserts .blank { capacity := 1, entries := [Fingerprint.blank.hex] }
            capacity := 1 } ] ++
        { moment := .acts .blank, capacity := 1 } ::
          [ { moment := .does (.sent (passing .blank).passedOn.frame), capacity := 1 } ]) := by
    decide +kernel
  exact others_between_acts faithful_slot ⟨rfl, rfl⟩ begun forgetfulLife split rfl rfl
    (by decide) (by decide)

end Life

end FloodMesh
