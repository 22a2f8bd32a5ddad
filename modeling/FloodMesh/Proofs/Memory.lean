/-
The duplicate memory as a list.

The slots of a ring are an implementation. What a ring remembers is the list of
its entries, oldest first, and every operation on the ring is one on that list:
a new fingerprint goes to the end, and of a list that is too long only the
newest stay. Nothing is remembered twice.
-/

import FloodMesh.Cache
import Mathlib.Data.List.Nodup

namespace FloodMesh

/-! ### The newest of a list -/

/-- The last of the items, no more than the given number. -/
def newest {α : Type} (count : Nat) (items : List α) : List α :=
  items.drop (items.length - count)

section Newest

variable {α : Type}

theorem newest_of_length_le {count : Nat} {items : List α} (few : items.length ≤ count) :
    newest count items = items := by
  unfold newest
  rw [Nat.sub_eq_zero_of_le few, List.drop_zero]

@[simp] theorem length_newest (count : Nat) (items : List α) :
    (newest count items).length = min items.length count := by
  unfold newest
  rw [List.length_drop]
  omega

@[simp] theorem newest_zero (items : List α) : newest 0 items = [] := by
  simp [newest]

theorem newest_suffix (count : Nat) (items : List α) : newest count items <:+ items :=
  List.drop_suffix _ _

/-- A tail that fits is among the newest. -/
theorem newest_append_of_le {count : Nat} {older newer : List α} (few : newer.length ≤ count) :
    newest count (older ++ newer) = newest (count - newer.length) older ++ newer := by
  have start : older.length + newer.length - count =
      older.length - (count - newer.length) := by omega
  unfold newest
  rw [List.length_append, start, List.drop_append_of_le_length (by omega)]

theorem newest_newest_append (count : Nat) (items more : List α) :
    newest count (newest count items ++ more) = newest count (items ++ more) := by
  have dropped : newest count items ++ more =
      (items ++ more).drop (items.length - count) := by
    rw [List.drop_append_of_le_length (Nat.sub_le _ _)]
    rfl
  rw [dropped]
  unfold newest
  rw [List.drop_drop, List.length_drop, List.length_append]
  congr 1
  omega

end Newest

namespace Ring

/-! ### The entries of a ring -/

theorem nodup_of_suffix {older newer : List Fingerprint} (behind : newer <:+ older)
    (distinct : older.Nodup) : newer.Nodup :=
  distinct.sublist behind.sublist

/-- Around the ring there is at most one turn. -/
theorem wrap {size head age : Nat} (within : head < size) (few : age ≤ size) :
    (head + age) % size = if head + age < size then head + age else head + age - size := by
  by_cases straight : head + age < size
  · rw [if_pos straight, Nat.mod_eq_of_lt straight]
  · rw [if_neg straight, Nat.mod_eq_sub_mod (by omega), Nat.mod_eq_of_lt (by omega)]

theorem getElem?_entries (ring : Ring) (age : Nat) :
    ring.entries[age]? =
      if age < ring.count then ring.slots[(ring.head + age) % ring.slots.size]? else none := by
  unfold entries
  rw [List.getElem?_ofFn]
  by_cases inUse : age < ring.count
  · rw [dif_pos inUse, if_pos inUse]
    rw [Array.getElem?_eq_getElem (ring.position_lt ⟨age, inUse⟩)]
  · rw [dif_neg inUse, if_neg inUse]

theorem length_entries_le (ring : Ring) : ring.entries.length ≤ ring.capacity := by
  rw [length_entries]
  exact ring.count_le

@[simp] theorem capacity_empty (capacity : Nat) : (empty capacity).capacity = capacity := by
  simp [empty, Ring.capacity]

@[simp] theorem entries_empty (capacity : Nat) : (empty capacity).entries = [] := by
  rw [← List.length_eq_zero_iff, length_entries]
  rfl

@[simp] theorem capacity_push (ring : Ring) (room : 0 < ring.slots.size)
    (fingerprint : Fingerprint) : (ring.push room fingerprint).capacity = ring.capacity := by
  unfold push
  by_cases free : ring.count < ring.slots.size
  · rw [dif_pos free]
    simp [Ring.capacity]
  · rw [dif_neg free]
    simp [Ring.capacity]

/-- With a slot free, the new fingerprint stands behind the others. -/
theorem entries_push_of_free {ring : Ring} (room : 0 < ring.slots.size)
    (free : ring.count < ring.slots.size) (fingerprint : Fingerprint) :
    (ring.push room fingerprint).entries = ring.entries ++ [fingerprint] := by
  have within := ring.head_lt room
  unfold push
  rw [dif_pos free]
  apply List.ext_getElem?
  intro age
  rw [getElem?_entries, List.getElem?_append, length_entries, getElem?_entries]
  simp only [Array.size_set, Array.getElem?_set]
  rcases Nat.lt_trichotomy age ring.count with earlier | last | beyond
  · have apart : (ring.head + ring.count) % ring.slots.size ≠
        (ring.head + age) % ring.slots.size := by
      rw [wrap within (by omega), wrap within (by omega)]
      split <;> split <;> omega
    rw [if_pos (by omega), if_neg apart, if_pos earlier]
    rw [if_pos earlier]
  · subst last
    rw [if_pos (by omega), if_pos rfl, if_neg (Nat.lt_irrefl _), Nat.sub_self]
    rfl
  · rw [if_neg (by omega), if_neg (by omega)]
    rw [List.getElem?_eq_none (by simp only [List.length_singleton]; omega)]

/-- With no slot free, the oldest fingerprint makes room. -/
theorem entries_push_of_full {ring : Ring} (room : 0 < ring.slots.size)
    (full : ¬ ring.count < ring.slots.size) (fingerprint : Fingerprint) :
    (ring.push room fingerprint).entries = ring.entries.drop 1 ++ [fingerprint] := by
  have within := ring.head_lt room
  have bounded := ring.count_le
  have countEq : ring.count = ring.slots.size := by omega
  have next : (ring.head + 1) % ring.slots.size < ring.slots.size := Nat.mod_lt _ room
  unfold push
  rw [dif_neg full]
  apply List.ext_getElem?
  intro age
  rw [getElem?_entries, List.getElem?_append, List.length_drop, length_entries,
    List.getElem?_drop, getElem?_entries]
  simp only [Array.size_set, Array.getElem?_set]
  have position : ((ring.head + 1) % ring.slots.size + age) % ring.slots.size =
      (ring.head + (1 + age)) % ring.slots.size := by
    rw [Nat.mod_add_mod, Nat.add_assoc]
  rw [position]
  rcases Nat.lt_trichotomy (age + 1) ring.count with earlier | last | beyond
  · have apart : ring.head ≠ (ring.head + (1 + age)) % ring.slots.size := by
      rw [wrap within (by omega)]
      split <;> omega
    rw [if_pos (by omega), if_neg apart, if_pos (by omega)]
    rw [if_pos (by omega)]
  · have around : ring.head = (ring.head + (1 + age)) % ring.slots.size := by
      rw [wrap within (by omega)]
      split <;> omega
    rw [if_pos (by omega), if_pos around, if_neg (by omega)]
    rw [show age - (ring.count - 1) = 0 by omega]
    rfl
  · rw [if_neg (by omega), if_neg (by omega)]
    rw [List.getElem?_eq_none (by simp only [List.length_singleton]; omega)]

private theorem entries_push (ring : Ring) (room : 0 < ring.slots.size)
    (fingerprint : Fingerprint) :
    (ring.push room fingerprint).entries =
      newest ring.capacity (ring.entries ++ [fingerprint]) := by
  have bounded := ring.count_le
  have lengthEq := ring.length_entries
  by_cases free : ring.count < ring.slots.size
  · rw [entries_push_of_free room free, newest_of_length_le]
    rw [List.length_append, List.length_singleton, lengthEq]
    exact free
  · have excess : ring.entries.length - (ring.capacity - 1) = 1 := by
      unfold Ring.capacity
      omega
    rw [entries_push_of_full room free, newest_append_of_le (by simp [Ring.capacity]; omega)]
    unfold newest
    rw [List.length_singleton, excess]

/-! ### Inserting -/

theorem contains_eq_true_iff {ring : Ring} {fingerprint : Fingerprint} :
    ring.contains fingerprint = true ↔ fingerprint ∈ ring.entries := by
  unfold contains
  exact List.contains_iff_mem

theorem contains_eq_false_iff {ring : Ring} {fingerprint : Fingerprint} :
    ring.contains fingerprint = false ↔ fingerprint ∉ ring.entries := by
  rw [← Bool.not_eq_true, contains_eq_true_iff]

/-- An insert changes the ring exactly if there is a slot and the fingerprint is new. -/
theorem insert?_eq_some_iff {ring later : Ring} {fingerprint : Fingerprint} :
    ring.insert? fingerprint = some later ↔
      ∃ room : 0 < ring.slots.size, fingerprint ∉ ring.entries ∧
        later = ring.push room fingerprint := by
  unfold insert?
  by_cases room : 0 < ring.slots.size
  · rw [dif_pos room]
    cases known : ring.contains fingerprint with
    | true =>
        have member := contains_eq_true_iff.mp known
        simp [member]
    | false =>
        have new := contains_eq_false_iff.mp known
        simp only [Bool.false_eq_true, if_false, Option.some.injEq]
        constructor
        · intro same
          exact ⟨room, new, same.symm⟩
        · intro ⟨_, _, same⟩
          exact same.symm
  · rw [dif_neg room]
    constructor
    · intro impossible
      cases impossible
    · intro ⟨roomy, _⟩
      exact absurd roomy room

theorem insert?_eq_none_iff {ring : Ring} {fingerprint : Fingerprint} :
    ring.insert? fingerprint = none ↔ ring.capacity = 0 ∨ fingerprint ∈ ring.entries := by
  unfold insert? Ring.capacity
  by_cases room : 0 < ring.slots.size
  · rw [dif_pos room]
    cases known : ring.contains fingerprint with
    | true =>
        have member := contains_eq_true_iff.mp known
        simp [member]
    | false =>
        have new := contains_eq_false_iff.mp known
        have roomy : ring.slots.size ≠ 0 := by omega
        simp [new, roomy]
  · rw [dif_neg room]
    have empty : ring.slots.size = 0 := by omega
    simp [empty]

theorem insert_eq_of_changed {ring later : Ring} {fingerprint : Fingerprint}
    (changed : ring.insert? fingerprint = some later) : ring.insert fingerprint = later := by
  unfold insert
  rw [changed]
  rfl

theorem insert_eq_of_unchanged {ring : Ring} {fingerprint : Fingerprint}
    (unchanged : ring.insert? fingerprint = none) : ring.insert fingerprint = ring := by
  unfold insert
  rw [unchanged]
  rfl

@[simp] theorem capacity_insert (ring : Ring) (fingerprint : Fingerprint) :
    (ring.insert fingerprint).capacity = ring.capacity := by
  unfold insert
  cases changed : ring.insert? fingerprint with
  | none => rfl
  | some later =>
      obtain ⟨room, _, same⟩ := insert?_eq_some_iff.mp changed
      rw [same]
      exact capacity_push ring room fingerprint

theorem insert_of_mem {ring : Ring} {fingerprint : Fingerprint}
    (known : fingerprint ∈ ring.entries) : ring.insert fingerprint = ring := by
  exact insert_eq_of_unchanged (insert?_eq_none_iff.mpr (.inr known))

theorem entries_insert_of_new {ring : Ring} {fingerprint : Fingerprint}
    (new : fingerprint ∉ ring.entries) :
    (ring.insert fingerprint).entries = newest ring.capacity (ring.entries ++ [fingerprint]) := by
  unfold insert
  by_cases room : 0 < ring.slots.size
  · rw [insert?_eq_some_iff.mpr ⟨room, new, rfl⟩]
    exact entries_push ring room fingerprint
  · have none : ring.capacity = 0 := by
      unfold Ring.capacity
      omega
    have short := ring.length_entries_le
    rw [none, Nat.le_zero, List.length_eq_zero_iff] at short
    rw [insert?_eq_none_iff.mpr (.inl none), none, newest_zero]
    exact short

/-- Nothing is remembered that was not known or inserted. -/
theorem mem_of_mem_insert {ring : Ring} {fingerprint item : Fingerprint}
    (member : item ∈ (ring.insert fingerprint).entries) :
    item ∈ ring.entries ∨ item = fingerprint := by
  by_cases known : fingerprint ∈ ring.entries
  · rw [insert_of_mem known] at member
    exact .inl member
  · rw [entries_insert_of_new known] at member
    simpa using (newest_suffix _ _).subset member

theorem mem_insert_self {ring : Ring} (roomy : 0 < ring.capacity) (fingerprint : Fingerprint) :
    fingerprint ∈ (ring.insert fingerprint).entries := by
  by_cases known : fingerprint ∈ ring.entries
  · rw [insert_of_mem known]
    exact known
  · rw [entries_insert_of_new known, newest_append_of_le (by simp; omega)]
    simp

theorem nodup_insert {ring : Ring} (distinct : ring.entries.Nodup) (fingerprint : Fingerprint) :
    (ring.insert fingerprint).entries.Nodup := by
  by_cases known : fingerprint ∈ ring.entries
  · rw [insert_of_mem known]
    exact distinct
  · rw [entries_insert_of_new known]
    refine nodup_of_suffix (newest_suffix _ _) ?_
    rw [← List.concat_eq_append]
    exact .concat known distinct

/-! ### Inserting many -/

@[simp] theorem capacity_foldl_insert (ring : Ring) (fingerprints : List Fingerprint) :
    (fingerprints.foldl insert ring).capacity = ring.capacity := by
  induction fingerprints generalizing ring with
  | nil => rfl
  | cons fingerprint rest ih =>
      rw [List.foldl_cons, ih, capacity_insert]

theorem nodup_foldl_insert {ring : Ring} (distinct : ring.entries.Nodup)
    (fingerprints : List Fingerprint) : (fingerprints.foldl insert ring).entries.Nodup := by
  induction fingerprints generalizing ring with
  | nil => exact distinct
  | cons fingerprint rest ih =>
      rw [List.foldl_cons]
      exact ih (nodup_insert distinct fingerprint)

/-- Of new and different fingerprints, the newest that fit are remembered. -/
theorem entries_foldl_insert {ring : Ring} {fingerprints : List Fingerprint}
    (distinct : (ring.entries ++ fingerprints).Nodup) :
    (fingerprints.foldl insert ring).entries =
      newest ring.capacity (ring.entries ++ fingerprints) := by
  induction fingerprints generalizing ring with
  | nil =>
      rw [List.foldl_nil, List.append_nil, newest_of_length_le ring.length_entries_le]
  | cons fingerprint rest ih =>
      have regrouped : ring.entries ++ fingerprint :: rest =
          (ring.entries ++ [fingerprint]) ++ rest := by simp
      have new : fingerprint ∉ ring.entries := by
        intro known
        rw [List.nodup_append] at distinct
        exact distinct.2.2 _ known _ List.mem_cons_self rfl
      have insertedEq := entries_insert_of_new new
      have laterDistinct : ((ring.insert fingerprint).entries ++ rest).Nodup := by
        rw [regrouped] at distinct
        rw [insertedEq]
        exact distinct.sublist ((newest_suffix _ _).sublist.append_right rest)
      rw [List.foldl_cons, ih laterDistinct, capacity_insert, insertedEq, regrouped]
      exact newest_newest_append ring.capacity _ rest

/-! ### Another capacity -/

theorem refill_eq (ring : Ring) (fingerprints : List Fingerprint) :
    ring.refill fingerprints = (newest ring.capacity fingerprints).foldl insert ring := rfl

@[simp] theorem capacity_refill (ring : Ring) (fingerprints : List Fingerprint) :
    (ring.refill fingerprints).capacity = ring.capacity := by
  rw [refill_eq, capacity_foldl_insert]

theorem nodup_refill_empty (capacity : Nat) (fingerprints : List Fingerprint) :
    ((empty capacity).refill fingerprints).entries.Nodup := by
  rw [refill_eq]
  exact nodup_foldl_insert (by simp) _

theorem entries_refill_empty {fingerprints : List Fingerprint} (capacity : Nat)
    (distinct : fingerprints.Nodup) :
    ((empty capacity).refill fingerprints).entries = newest capacity fingerprints := by
  have keptDistinct := nodup_of_suffix (newest_suffix capacity fingerprints) distinct
  rw [refill_eq, capacity_empty, entries_foldl_insert (by simpa using keptDistinct)]
  rw [capacity_empty, entries_empty, List.nil_append]
  exact newest_of_length_le (by rw [length_newest]; omega)

@[simp] theorem capacity_resize (ring : Ring) (capacity : Nat) :
    (ring.resize capacity).capacity = capacity := by
  unfold resize resize?
  by_cases same : capacity = ring.capacity
  · rw [if_pos same]
    exact same.symm
  · rw [if_neg same]
    simp

theorem resize_eq_of_changed {ring later : Ring} {capacity : Nat}
    (changed : ring.resize? capacity = some later) : ring.resize capacity = later := by
  unfold resize
  rw [changed]
  rfl

theorem resize_eq_of_unchanged {ring : Ring} {capacity : Nat}
    (unchanged : ring.resize? capacity = none) : ring.resize capacity = ring := by
  unfold resize
  rw [unchanged]
  rfl

/-- A resize keeps the newest that fit. -/
theorem entries_resize {ring : Ring} (distinct : ring.entries.Nodup) (capacity : Nat) :
    (ring.resize capacity).entries = newest capacity ring.entries := by
  unfold resize resize?
  by_cases same : capacity = ring.capacity
  · rw [if_pos same, same]
    exact (newest_of_length_le ring.length_entries_le).symm
  · rw [if_neg same]
    exact entries_refill_empty capacity distinct

theorem nodup_resize {ring : Ring} (distinct : ring.entries.Nodup) (capacity : Nat) :
    (ring.resize capacity).entries.Nodup := by
  rw [entries_resize distinct]
  exact nodup_of_suffix (newest_suffix _ _) distinct

/-! ### The saved form -/

/-- A snapshot tells the entries. -/
@[simp] theorem fingerprints_snapshot (ring : Ring) :
    ring.snapshot.fingerprints = ring.entries := by
  unfold snapshot Snapshot.fingerprints
  rw [List.filterMap_map]
  rw [show Fingerprint.ofHex? ∘ Fingerprint.hex = some from
    funext Fingerprint.ofHex?_hex]
  exact List.filterMap_some

@[simp] theorem capacity_restore (capacity : Nat) (saved : Option Snapshot) :
    (restore capacity saved).capacity = capacity := by
  simp [restore]

theorem nodup_restore (capacity : Nat) (saved : Option Snapshot) :
    (restore capacity saved).entries.Nodup :=
  nodup_refill_empty _ _

/-- A start finds the newest of what was saved. -/
theorem entries_restore {snapshot : Snapshot} (capacity : Nat)
    (distinct : snapshot.fingerprints.Nodup) :
    (restore capacity (some snapshot)).entries = newest capacity snapshot.fingerprints :=
  entries_refill_empty capacity distinct

end Ring

end FloodMesh
