/-
The duplicate memory is a bounded set that forgets the oldest first.

What its slots, head and count stand for is a list without repetitions, oldest
first. Every operation is one on that list, for any capacity. The operations
are also run with every access to a slot and every remainder checked, and no
check ever fails.
-/

import FloodMesh.Proofs.Memory
import Mathlib.Data.List.GetD
import Mathlib.Data.List.Induction
import Mathlib.Data.List.Perm.Subperm

namespace FloodMesh

/-! ### Digits -/

private theorem Bytes.hexDigit_lower : ∀ value < 16,
    Bytes.hexDigit value ∈ "0123456789abcdef".toList := by decide

theorem Bytes.hex_lower {data : Bytes} {digit : Char} (written : digit ∈ data.hex) :
    digit ∈ "0123456789abcdef".toList := by
  obtain ⟨byte, _, digits⟩ := List.mem_flatMap.mp written
  have below := byte.toNat_lt
  rcases List.mem_cons.mp digits with upper | rest
  · rw [upper]
    exact Bytes.hexDigit_lower _ (by omega)
  · rw [List.mem_singleton.mp rest]
    exact Bytes.hexDigit_lower _ (by omega)

/-! ### First occurrences -/

namespace Ring

/-- Of what is inserted into a ring with room for all, the first occurrences stay. -/
theorem entries_foldl_insert_empty {capacity : Nat} {fingerprints : List Fingerprint}
    (fits : fingerprints.length ≤ capacity) :
    (fingerprints.foldl insert (empty capacity)).entries = fingerprints.eraseDups := by
  -- The last item is the last one inserted, so the induction takes items off the end.
  induction fingerprints using List.reverseRecOn with
  | nil => exact entries_empty capacity
  | append_singleton earlier last ih =>
      rw [List.length_append, List.length_singleton] at fits
      have before := ih (by omega)
      rw [List.foldl_append, List.foldl_cons, List.foldl_nil, List.eraseDups_append]
      by_cases known : last ∈ earlier
      · have present : last ∈ (earlier.foldl insert (empty capacity)).entries := by
          rw [before]
          exact List.mem_eraseDups.mpr known
        rw [insert_of_mem present, before]
        simp [List.removeAll, known]
      · have absent : last ∉ (earlier.foldl insert (empty capacity)).entries := by
          rw [before]
          exact fun present => known (List.mem_eraseDups.mp present)
        -- There is still room, so nothing is forgotten for the new item.
        have few : earlier.eraseDups.length ≤ earlier.length := by
          have distinct : (earlier.foldl insert (empty capacity)).entries.Nodup :=
            nodup_foldl_insert (by simp) earlier
          rw [before] at distinct
          exact (List.subperm_of_subset distinct fun item => List.mem_eraseDups.mp).length_le
        rw [entries_insert_of_new absent, before, capacity_foldl_insert, capacity_empty,
          newest_of_length_le (by simp; omega)]
        simp [List.removeAll, known, List.eraseDups_cons]

theorem entries_refill_empty_eq (capacity : Nat) (fingerprints : List Fingerprint) :
    ((empty capacity).refill fingerprints).entries =
      (newest capacity fingerprints).eraseDups := by
  rw [refill_eq, capacity_empty]
  exact entries_foldl_insert_empty (by rw [length_newest]; omega)

end Ring

/-! ### Checked rings -/

def remainder? (value divisor : Nat) : Option Nat :=
  if divisor = 0 then none else some (value % divisor)

/-- A ring of which nothing is known. What is done to it fails at a slot that is
not there and at a remainder by zero. -/
structure BareRing where
  slots : Array Fingerprint
  head : Nat
  count : Nat

namespace BareRing

def empty (capacity : Nat) : BareRing :=
  { slots := Array.replicate capacity Fingerprint.blank, head := 0, count := 0 }

def read? (ring : BareRing) (age : Nat) : Option Fingerprint := do
  let place ← remainder? (ring.head + age) ring.slots.size
  ring.slots[place]?

def entries? (ring : BareRing) : Option (List Fingerprint) :=
  (List.range ring.count).mapM ring.read?

def write? (ring : BareRing) (place : Nat) (fingerprint : Fingerprint) :
    Option (Array Fingerprint) :=
  if inside : place < ring.slots.size then some (ring.slots.set place fingerprint inside)
  else none

def push? (ring : BareRing) (fingerprint : Fingerprint) : Option BareRing :=
  if ring.count < ring.slots.size then do
    let place ← remainder? (ring.head + ring.count) ring.slots.size
    let slots ← ring.write? place fingerprint
    pure { ring with slots, count := ring.count + 1 }
  else do
    let slots ← ring.write? ring.head fingerprint
    let head ← remainder? (ring.head + 1) ring.slots.size
    pure { ring with slots, head }

def insert? (ring : BareRing) (fingerprint : Fingerprint) : Option (Bool × BareRing) :=
  if ring.slots.size = 0 then some (false, ring)
  else do
    let known ← ring.entries?
    if known.contains fingerprint then pure (false, ring)
    else
      let later ← ring.push? fingerprint
      pure (true, later)

def refill? (ring : BareRing) (fingerprints : List Fingerprint) : Option BareRing :=
  (fingerprints.drop (fingerprints.length - ring.slots.size)).foldlM
    (fun ring fingerprint => (ring.insert? fingerprint).map Prod.snd) ring

def resize? (ring : BareRing) (capacity : Nat) : Option BareRing :=
  if capacity = ring.slots.size then some ring
  else do
    let known ← ring.entries?
    (empty capacity).refill? known

end BareRing

namespace Ring

def bare (ring : Ring) : BareRing :=
  { slots := ring.slots, head := ring.head, count := ring.count }

private theorem remainder?_of_room {value divisor : Nat} (room : 0 < divisor) :
    remainder? value divisor = some (value % divisor) := by
  unfold remainder?
  rw [if_neg (by omega)]

private theorem read?_bare {ring : Ring} {age : Nat} (inUse : age < ring.count) :
    ring.bare.read? age = ring.entries[age]? := by
  have bounded := ring.count_le
  unfold BareRing.read?
  rw [show ring.bare.slots = ring.slots from rfl, show ring.bare.head = ring.head from rfl,
    remainder?_of_room (by omega), getElem?_entries, if_pos inUse]
  rfl

private theorem entries?_bare (ring : Ring) : ring.bare.entries? = some ring.entries := by
  have reads : ∀ ages : List Nat, (∀ age ∈ ages, age < ring.count) →
      ages.mapM ring.bare.read? =
        some (ages.map fun age => ring.entries.getD age Fingerprint.blank) := by
    intro ages inUse
    induction ages with
    | nil => rfl
    | cons age rest ih =>
        have within : age < ring.entries.length := by
          rw [length_entries]
          exact inUse age List.mem_cons_self
        rw [List.mapM_cons, ih fun later member => inUse later (List.mem_cons_of_mem _ member),
          read?_bare (inUse age List.mem_cons_self), List.getElem?_eq_getElem within,
          List.map_cons, List.getD_eq_getElem _ _ within]
        rfl
  have whole := reads (List.range ring.count) fun age => List.mem_range.mp
  rw [BareRing.entries?, show ring.bare.count = ring.count from rfl, whole]
  congr 1
  apply List.ext_getElem
  · rw [List.length_map, List.length_range, length_entries]
  · intro age inRange within
    rw [List.getElem_map, List.getElem_range, List.getD_eq_getElem _ _ within]

private theorem write?_of_lt {ring : BareRing} {place : Nat} (inside : place < ring.slots.size)
    (fingerprint : Fingerprint) :
    ring.write? place fingerprint = some (ring.slots.set place fingerprint inside) :=
  dif_pos inside

private theorem push?_bare {ring : Ring} (room : 0 < ring.slots.size) (fingerprint : Fingerprint) :
    ring.bare.push? fingerprint = some (ring.push room fingerprint).bare := by
  have behind : (ring.bare.head + ring.bare.count) % ring.bare.slots.size <
      ring.bare.slots.size := Nat.mod_lt _ room
  have front : ring.bare.head < ring.bare.slots.size := ring.head_lt room
  have roomy : 0 < ring.bare.slots.size := room
  unfold BareRing.push? push
  by_cases free : ring.count < ring.slots.size
  · have bareFree : ring.bare.count < ring.bare.slots.size := free
    rw [if_pos bareFree, dif_pos free, remainder?_of_room roomy, Option.bind_eq_bind,
      Option.bind_some, write?_of_lt behind]
    rfl
  · have bareFull : ¬ ring.bare.count < ring.bare.slots.size := free
    rw [if_neg bareFull, dif_neg free, write?_of_lt front, Option.bind_eq_bind, Option.bind_some,
      remainder?_of_room roomy]
    rfl

/-- The checked insertion succeeds, and is the insertion. -/
theorem insert?_bare (ring : Ring) (fingerprint : Fingerprint) :
    ring.bare.insert? fingerprint =
      some ((ring.insert? fingerprint).isSome, (ring.insert fingerprint).bare) := by
  unfold BareRing.insert? insert insert? contains
  rw [entries?_bare, show ring.bare.slots = ring.slots from rfl]
  by_cases room : 0 < ring.slots.size
  · rw [if_neg (by omega), dif_pos room]
    simp only [Option.bind_eq_bind, Option.bind_some]
    cases ring.entries.contains fingerprint with
    | true => rfl
    | false =>
        simp only [Bool.false_eq_true, if_false, push?_bare room, Option.bind_some]
        rfl
  · rw [if_pos (by omega), dif_neg room]
    rfl

private theorem refill?_bare (ring : Ring) (fingerprints : List Fingerprint) :
    ring.bare.refill? fingerprints = some (ring.refill fingerprints).bare := by
  have inserts : ∀ (items : List Fingerprint) (ring : Ring),
      items.foldlM (fun ring item => (BareRing.insert? ring item).map Prod.snd) ring.bare =
        some (items.foldl insert ring).bare := by
    intro items
    induction items with
    | nil => exact fun ring => rfl
    | cons item rest ih =>
        intro ring
        rw [List.foldlM_cons, insert?_bare]
        exact ih (ring.insert item)
  exact inserts _ ring

private theorem resize?_bare (ring : Ring) (capacity : Nat) :
    ring.bare.resize? capacity = some (ring.resize capacity).bare := by
  have refilled := refill?_bare (empty capacity) ring.entries
  unfold BareRing.resize? resize resize? Ring.capacity
  rw [entries?_bare, show ring.bare.slots = ring.slots from rfl]
  by_cases same : capacity = ring.slots.size
  · rw [if_pos same, if_pos same]
    rfl
  · rw [if_neg same, if_neg same]
    exact refilled

end Ring

/-! ### Caches -/

structure Ring.Stands (ring : Ring) (capacity : Nat) (items : List Fingerprint) : Prop where
  size : ring.slots.size = capacity
  count : ring.count = items.length
  slot : ∀ age, (inUse : age < items.length) →
    ring.slots[(ring.head + age) % ring.slots.size]? = some items[age]
  distinct : items.Nodup
  bounded : items.length ≤ capacity

private theorem Ring.stands_entries {ring : Ring} (distinct : ring.entries.Nodup) :
    ring.Stands ring.capacity ring.entries where
  size := rfl
  count := ring.length_entries.symm
  slot age inUse := by
    have inCount : age < ring.count := by rwa [length_entries] at inUse
    have found := ring.getElem?_entries age
    rw [if_pos inCount, List.getElem?_eq_getElem inUse] at found
    exact found.symm
  distinct := distinct
  bounded := ring.length_entries_le

private theorem Ring.stands_of_eq {ring : Ring} {capacity : Nat} {items : List Fingerprint}
    (size : ring.capacity = capacity) (same : ring.entries = items) (distinct : items.Nodup) :
    ring.Stands capacity items := by
  subst size same
  exact stands_entries distinct

namespace Cache

variable {σ : Type}

inductive Reached (store : Store σ) : Cache σ → Prop
  | new (capacity : Nat) (kept : σ) : Reached store (.new capacity kept)
  | restored (capacity : Nat) (kept : σ) : Reached store (.restore store capacity kept)
  | cleared {cache : Cache σ} (reached : Reached store cache) (capacity : Nat) :
      Reached store (cache.clear capacity)
  | inserted {cache : Cache σ} (reached : Reached store cache) (fingerprint : Fingerprint) :
      Reached store (cache.insert store fingerprint).2
  | resized {cache : Cache σ} (reached : Reached store cache) (capacity : Nat) :
      Reached store (cache.resize store capacity)

private theorem insert_fst (store : Store σ) (cache : Cache σ) (fingerprint : Fingerprint) :
    (cache.insert store fingerprint).1 = (cache.ring.insert? fingerprint).isSome := by
  unfold insert
  cases cache.ring.insert? fingerprint <;> rfl

private theorem ring_insert (store : Store σ) (cache : Cache σ) (fingerprint : Fingerprint) :
    (cache.insert store fingerprint).2.ring = cache.ring.insert fingerprint := by
  unfold insert Ring.insert
  cases cache.ring.insert? fingerprint <;> rfl

private theorem ring_resize (store : Store σ) (cache : Cache σ) (capacity : Nat) :
    (cache.resize store capacity).ring = cache.ring.resize capacity := by
  unfold resize Ring.resize
  cases cache.ring.resize? capacity <;> rfl

theorem Reached.distinct {store : Store σ} {cache : Cache σ} (reached : Reached store cache) :
    cache.ring.entries.Nodup := by
  induction reached with
  | new capacity kept =>
      rw [show (Cache.new capacity kept).ring = Ring.empty capacity from rfl, Ring.entries_empty]
      exact List.nodup_nil
  | restored capacity kept => exact Ring.nodup_restore capacity _
  | @cleared cache reached capacity ih =>
      rw [show (cache.clear capacity).ring = Ring.empty capacity from rfl, Ring.entries_empty]
      exact List.nodup_nil
  | inserted reached fingerprint ih =>
      rw [ring_insert]
      exact Ring.nodup_insert ih fingerprint
  | resized reached capacity ih =>
      rw [ring_resize]
      exact Ring.nodup_resize ih capacity

/-- The cache is a set of bounded size that lists its items from the oldest on. -/
structure FifoSet (store : Store σ) (cache : Cache σ) (items : List Fingerprint) : Prop where
  stands : cache.ring.Stands cache.ring.capacity items
  contains : ∀ fingerprint, cache.ring.contains fingerprint = true ↔ fingerprint ∈ items
  inserts : ∀ fingerprint,
    (cache.insert store fingerprint).1 = true ↔
      0 < cache.ring.capacity ∧ fingerprint ∉ items
  new : ∀ fingerprint, (cache.insert store fingerprint).1 = true →
    (cache.insert store fingerprint).2.ring.Stands cache.ring.capacity
      (newest cache.ring.capacity (items ++ [fingerprint]))
  old : ∀ fingerprint, (cache.insert store fingerprint).1 = false →
    (cache.insert store fingerprint).2 = cache
  resize : ∀ capacity,
    (cache.resize store capacity).ring.Stands capacity (newest capacity items)
  clear : ∀ capacity, (cache.clear capacity).ring.Stands capacity []
  snapshot : cache.ring.snapshot =
    { capacity := cache.ring.capacity, entries := items.map Fingerprint.hex }
  fingerprints : cache.ring.snapshot.fingerprints = items
  /-- No slot that is not there is used, and no remainder by zero is taken. -/
  checked : cache.ring.bare.entries? = some items ∧
    (∀ fingerprint, cache.ring.bare.insert? fingerprint =
      some ((cache.insert store fingerprint).1,
        (cache.insert store fingerprint).2.ring.bare)) ∧
    ∀ capacity, cache.ring.bare.resize? capacity =
      some (cache.resize store capacity).ring.bare

private theorem Reached.fifoSet {store : Store σ} {cache : Cache σ}
    (reached : Reached store cache) :
    FifoSet store cache cache.ring.entries := by
  have distinct := reached.distinct
  constructor
  · exact Ring.stands_entries distinct
  · exact fun fingerprint => Ring.contains_eq_true_iff
  · intro fingerprint
    rw [insert_fst, ← Bool.not_eq_false, Option.isSome_eq_false_iff, Option.isNone_iff_eq_none,
      Ring.insert?_eq_none_iff, not_or, Nat.pos_iff_ne_zero]
  · intro fingerprint changed
    rw [insert_fst] at changed
    obtain ⟨later, laterEq⟩ := Option.isSome_iff_exists.mp changed
    obtain ⟨_, new, _⟩ := Ring.insert?_eq_some_iff.mp laterEq
    rw [ring_insert, ← Ring.entries_insert_of_new new]
    exact Ring.stands_of_eq (Ring.capacity_insert _ _) rfl (Ring.nodup_insert distinct _)
  · intro fingerprint unchanged
    rw [insert_fst, Option.isSome_eq_false_iff, Option.isNone_iff_eq_none] at unchanged
    unfold insert
    rw [unchanged]
  · intro capacity
    rw [ring_resize, ← Ring.entries_resize distinct]
    exact Ring.stands_of_eq (Ring.capacity_resize _ _) rfl (Ring.nodup_resize distinct _)
  · intro capacity
    exact Ring.stands_of_eq (Ring.capacity_empty _) (Ring.entries_empty _) List.nodup_nil
  · rfl
  · exact Ring.fingerprints_snapshot _
  · refine ⟨Ring.entries?_bare _, ?_, ?_⟩
    · intro fingerprint
      rw [insert_fst, ring_insert]
      exact Ring.insert?_bare _ _
    · intro capacity
      rw [ring_resize]
      exact Ring.resize?_bare _ _

def offered (store : Store σ) (kept : σ) : List Fingerprint :=
  match store.load kept with
  | .ok (some snapshot) => snapshot.fingerprints
  | _ => []

theorem ring_restore (store : Store σ) (capacity : Nat) (kept : σ) :
    (Cache.restore store capacity kept).ring =
      (Ring.empty capacity).refill (offered store kept) := by
  unfold Cache.restore Ring.restore offered
  cases store.load kept with
  | error failure => rfl
  | ok saved => cases saved <;> rfl

/-- Whatever was done to a cache, it is a set of bounded size that forgets the
oldest first, and a start takes over the first occurrences among the newest that
can be read. -/
theorem fifo_set (store : Store σ) :
    (∀ cache, Reached store cache → ∃ items, FifoSet store cache items) ∧
      (∀ capacity kept,
        (Cache.restore store capacity kept).ring.Stands capacity
            (newest capacity (offered store kept)).eraseDups ∧
          (BareRing.empty capacity).refill? (offered store kept) =
            some (Cache.restore store capacity kept).ring.bare) ∧
      ∀ fingerprint : Fingerprint, fingerprint.hex.length = 64 ∧
        ∀ digit ∈ fingerprint.hex.toList, digit ∈ "0123456789abcdef".toList := by
  refine ⟨?_, ?_, ?_⟩
  · intro cache reached
    exact ⟨cache.ring.entries, reached.fifoSet⟩
  · intro capacity kept
    have found := Ring.entries_refill_empty_eq capacity (offered store kept)
    have distinct := Ring.nodup_refill_empty capacity (offered store kept)
    have size : ((Ring.empty capacity).refill (offered store kept)).capacity = capacity := by
      rw [Ring.capacity_refill, Ring.capacity_empty]
    rw [ring_restore]
    refine ⟨Ring.stands_of_eq size found (found ▸ distinct), ?_⟩
    exact Ring.refill?_bare (Ring.empty capacity) _
  · intro fingerprint
    unfold Fingerprint.hex Bytes.hexText
    rw [String.toList_ofList]
    refine ⟨?_, fun digit written => Bytes.hex_lower written⟩
    rw [String.length_ofList, Bytes.length_hex, fingerprint.length_eq]

def stamp (byte : UInt8) : Fingerprint :=
  { bytes := List.replicate 32 byte, length_eq := List.length_replicate }

/-- What is left of a saved memory after some wear: an entry cannot be read, and
others are there more than once. -/
def worn : Slot :=
  { saved := some
      { capacity := 6
        entries := [(stamp 1).hex, "f", (stamp 2).hex, (stamp 3).hex, (stamp 3).hex, "seven"] } }

def wornLife : Cache Slot :=
  let filled := ((Cache.restore Store.slot 3 worn).insert Store.slot (stamp 4)).2
  (filled.insert Store.slot (stamp 5)).2

theorem fifo_set_wornLife :
    (Cache.restore Store.slot 3 worn).ring.Stands 3 [stamp 2, stamp 3] ∧
      wornLife.ring.entries = [stamp 3, stamp 4, stamp 5] ∧
      ∃ items, FifoSet Store.slot wornLife items := by
  have offers : (newest 3 (offered Store.slot worn)).eraseDups = [stamp 2, stamp 3] := by
    decide +kernel
  have restored := (fifo_set Store.slot).2.1 3 worn
  rw [offers] at restored
  have reached : Reached Store.slot wornLife :=
    ((Reached.restored 3 worn).inserted (stamp 4)).inserted (stamp 5)
  exact ⟨restored.1, by decide +kernel, (fifo_set Store.slot).1 _ reached⟩

end Cache

end FloodMesh
