/-
What a row says of its node.

A row is made by the first update of its node, or by a list that names the node, and it
lasts until a list leaves the node out. What it says is told by the updates of its own
node since it was last made: some counts run over all of them, the others begin anew at
every reply. A listing has every row once, by rising addresses.
-/

import FloodMesh.Proofs.Codec
import FloodMesh.Proofs.Rows
import Mathlib

namespace FloodMesh

private theorem Address.bytes_injective : Function.Injective Address.bytes := by
  rintro ⟨bytes, _, _⟩ ⟨other, _, _⟩ same
  cases same
  rfl

/-! ### Updates of one node -/

namespace NodeStatus

def Update.isPoll : Update → Bool
  | .polled _ => true
  | _ => false

def Update.isSendFailure : Update → Bool
  | .noticed _ .sendFailed => true
  | _ => false

def Update.isSilence : Update → Bool
  | .noticed _ .noResponse => true
  | _ => false

def Update.reply? : Update → Option Entry
  | .replied entry => some entry
  | _ => none

def Update.fault? : Update → Option UInt8
  | .noticed _ (.faultReported code) => some code
  | _ => none

/-- An event as an update of this node, if it is one. -/
def ownUpdate? (address : Address) : StatusTable.Event → Option Update
  | .updates update => if update.address = address then some update else none
  | .tracks _ => none

def ownUpdates (address : Address) (events : List StatusTable.Event) : List Update :=
  events.filterMap (ownUpdate? address)

/-- What came after the last reply, or all if there was none. -/
def sinceReply (updates : List Update) : List Update :=
  updates.rtakeWhile fun update => update.reply?.isNone

def lastReply? (updates : List Update) : Option Entry :=
  (updates.filterMap Update.reply?).getLast?

structure Tells (row : NodeStatus) (updates : List Update) : Prop where
  pollsSent : row.pollsSent = updates.countP Update.isPoll
  sendFailures : row.sendFailures = updates.countP Update.isSendFailure
  consecutiveTimeouts : row.consecutiveTimeouts = (sinceReply updates).countP Update.isSilence
  lastError : row.lastError = ((sinceReply updates).filterMap Update.fault?).getLast?
  lastReplyAt : row.lastReplyAt = (lastReply? updates).map Entry.receivedAt
  lastData : row.lastData = (lastReply? updates).map Entry.data

private theorem tells_blank (address : Address) : Tells { address } [] where
  pollsSent := rfl
  sendFailures := rfl
  consecutiveTimeouts := rfl
  lastError := rfl
  lastReplyAt := rfl
  lastData := rfl

private theorem sinceReply_concat (updates : List Update) (update : Update) :
    sinceReply (updates ++ [update]) =
      if update.reply?.isNone then sinceReply updates ++ [update] else [] :=
  List.rtakeWhile_concat _ updates update

private theorem lastReply?_concat (updates : List Update) (update : Update) :
    lastReply? (updates ++ [update]) = update.reply?.or (lastReply? updates) := by
  unfold lastReply?
  rw [List.filterMap_append, List.getLast?_append]
  cases update <;> rfl

private theorem Tells.apply {row : NodeStatus} {updates : List Update} (tells : row.Tells updates)
    (update : Update) : (row.apply update).Tells (updates ++ [update]) := by
  obtain ⟨pollsSent, sendFailures, consecutiveTimeouts, lastError, lastReplyAt, lastData⟩ := tells
  cases update with
  | polled address =>
      constructor <;>
        simp [NodeStatus.apply, sinceReply_concat, lastReply?_concat, Update.isPoll,
          Update.isSendFailure, Update.isSilence, Update.reply?, Update.fault?, *]
  | replied entry =>
      constructor <;>
        simp [NodeStatus.apply, sinceReply_concat, lastReply?_concat, Update.isPoll,
          Update.isSendFailure, Update.reply?, *]
  | noticed address notice =>
      cases notice <;>
        constructor <;>
          simp [NodeStatus.apply, sinceReply_concat, lastReply?_concat, Update.isPoll,
            Update.isSendFailure, Update.isSilence, Update.reply?, Update.fault?, *]

end NodeStatus

/-! ### From its making on -/

namespace StatusTable

def after (events : List Event) : StatusTable := events.foldl take {}

private theorem get?_after_concat (events : List Event) (event : Event) (address : Address) :
    (after (events ++ [event])).get? address =
      NodeStatus.rowAfter address ((after events).get? address) event := by
  rw [after, List.foldl_append, List.foldl_cons, List.foldl_nil, get?_take, after]

/-- A node has no row after the earlier events, and has one from the first of the later
events on. -/
structure Lifespan (address : Address) (earlier life : List Event) : Prop where
  absent : (after earlier).get? address = none
  present : ∀ part, part <+: life → part ≠ [] →
    ((after (earlier ++ part)).get? address).isSome

variable {address : Address} {events earlier life : List Event} {event : Event}

private theorem Lifespan.concat (lifespan : Lifespan address earlier life)
    (there : ((after (earlier ++ (life ++ [event]))).get? address).isSome) :
    Lifespan address earlier (life ++ [event]) where
  absent := lifespan.absent
  present part within some_part := by
    rcases List.prefix_concat_iff.mp within with whole | within
    · rw [whole]
      exact there
    · exact lifespan.present part within some_part

private theorem Lifespan.start (absent : (after events).get? address = none) :
    Lifespan address events [] where
  absent := absent
  present _ within some_part := absurd (List.prefix_nil.mp within) some_part

private theorem ownUpdates_concat (events : List Event) (event : Event) :
    NodeStatus.ownUpdates address (events ++ [event]) =
      NodeStatus.ownUpdates address events ++ (NodeStatus.ownUpdate? address event).toList := by
  unfold NodeStatus.ownUpdates
  rw [List.filterMap_append]
  cases own : NodeStatus.ownUpdate? address event <;> simp [own]

/-- One more event, as long as the row is still there after it. -/
theorem tells_rowAfter {row : Option NodeStatus} {updates : List NodeStatus.Update}
    (tells : (row.getD { address }).Tells updates)
    (there : (NodeStatus.rowAfter address row event).isSome) :
    ((NodeStatus.rowAfter address row event).getD { address }).Tells
      (updates ++ (NodeStatus.ownUpdate? address event).toList) := by
  cases event with
  | tracks addresses =>
      simp only [NodeStatus.rowAfter, NodeStatus.ownUpdate?] at there ⊢
      split at there
      · rename_i listed
        rw [if_pos listed, Option.toList_none, List.append_nil]
        exact tells
      · cases there
  | updates update =>
      simp only [NodeStatus.rowAfter, NodeStatus.ownUpdate?]
      by_cases own : update.address = address
      · rw [if_pos own, if_pos own]
        exact tells.apply update
      · rw [if_neg own, if_neg own, Option.toList_none, List.append_nil]
        exact tells

/-- At any time a node's row, blank if there is none, tells the updates of its last life. -/
theorem exists_lifespan (address : Address) (events : List Event) :
    ∃ earlier life, events = earlier ++ life ∧ Lifespan address earlier life ∧
      (((after events).get? address).getD { address }).Tells
        (NodeStatus.ownUpdates address life) := by
  induction events using List.reverseRecOn with
  | nil => exact ⟨[], [], rfl, .start rfl, NodeStatus.tells_blank address⟩
  | append_singleton events event ih =>
      obtain ⟨earlier, life, rfl, lifespan, tells⟩ := ih
      cases there : (after (earlier ++ life ++ [event])).get? address with
      | none =>
          exact ⟨_, [], (List.append_nil _).symm, .start there, NodeStatus.tells_blank address⟩
      | some row =>
          refine ⟨earlier, life ++ [event], List.append_assoc _ _ _, lifespan.concat ?_, ?_⟩
          · rw [← List.append_assoc, there]
            rfl
          · rw [ownUpdates_concat, ← there, get?_after_concat]
            refine tells_rowAfter tells ?_
            rw [← get?_after_concat, there]
            rfl

/-! ### Who has a row -/

def Event.isUpdate : Event → Bool
  | .updates _ => true
  | .tracks _ => false

def lastTracked (events : List Event) : List Address :=
  match (events.rdropWhile Event.isUpdate).getLast? with
  | some (.tracks addresses) => addresses
  | _ => []

def sinceTracked (events : List Event) : List Event := events.rtakeWhile Event.isUpdate

private theorem isSome_get?_after_iff (events : List Event) (address : Address) :
    ((after events).get? address).isSome ↔
      address ∈ lastTracked events ∨
        ∃ update, .updates update ∈ sinceTracked events ∧ update.address = address := by
  induction events using List.reverseRecOn with
  | nil => simp [after, get?, lastTracked, sinceTracked]
  | append_singleton events event ih =>
      rw [get?_after_concat]
      cases event with
      | tracks addresses =>
          have last : lastTracked (events ++ [.tracks addresses]) = addresses := by
            rw [lastTracked, List.rdropWhile_concat_neg _ _ _ (by simp [Event.isUpdate]),
              List.getLast?_concat]
          have since : sinceTracked (events ++ [.tracks addresses]) = [] :=
            List.rtakeWhile_concat_neg _ _ _ (by simp [Event.isUpdate])
          rw [last, since]
          by_cases listed : address ∈ addresses <;> simp [NodeStatus.rowAfter, listed]
      | updates update =>
          have last : lastTracked (events ++ [.updates update]) = lastTracked events := by
            rw [lastTracked, List.rdropWhile_concat_pos _ _ _ rfl, lastTracked]
          have since : sinceTracked (events ++ [.updates update]) =
              sinceTracked events ++ [.updates update] :=
            List.rtakeWhile_concat_pos _ _ _ rfl
          rw [last, since]
          by_cases own : update.address = address
          · simp only [NodeStatus.rowAfter, if_pos own, Option.isSome_some, true_iff]
            exact .inr ⟨update, List.mem_append_right _ List.mem_cons_self, own⟩
          · simp only [NodeStatus.rowAfter, if_neg own]
            rw [ih]
            refine or_congr_right (exists_congr fun other => ?_)
            simp only [List.mem_append, List.mem_singleton, Event.updates.injEq]
            constructor
            · rintro ⟨among, same⟩
              exact ⟨.inl among, same⟩
            · rintro ⟨among | rfl, same⟩
              · exact ⟨among, same⟩
              · exact absurd same own

/-! ### Listings -/

private theorem nodup_ensure {table : StatusTable}
    (distinct : (table.rows.map NodeStatus.address).Nodup)
    (address : Address) : ((table.ensure address).rows.map NodeStatus.address).Nodup := by
  unfold ensure
  split
  · exact distinct
  · rename_i absent
    rw [List.map_append, List.nodup_append]
    refine ⟨distinct, by simp, ?_⟩
    rintro _ among _ own rfl
    obtain ⟨row, present, rfl⟩ := List.mem_map.mp among
    rw [Bool.not_eq_true, Option.isSome_eq_false_iff, Option.isNone_iff_eq_none, get?,
      List.find?_eq_none] at absent
    exact absent row present (by simpa using own)

private theorem nodup_foldl_ensure (addresses : List Address) {table : StatusTable}
    (distinct : (table.rows.map NodeStatus.address).Nodup) :
    ((addresses.foldl ensure table).rows.map NodeStatus.address).Nodup := by
  induction addresses generalizing table with
  | nil => exact distinct
  | cons address rest ih => exact ih (nodup_ensure distinct address)

private theorem nodup_take {table : StatusTable}
    (distinct : (table.rows.map NodeStatus.address).Nodup)
    (event : Event) : ((table.take event).rows.map NodeStatus.address).Nodup := by
  cases event with
  | updates update =>
      have kept : (NodeStatus.address ∘ fun row =>
          if row.address = update.address then row.apply update else row) =
            NodeStatus.address := by
        funext row
        simp only [Function.comp_apply]
        split
        · exact NodeStatus.address_apply row update
        · rfl
      rw [take, update_eq_change, change, List.map_map, kept]
      exact nodup_ensure distinct update.address
  | tracks addresses =>
      exact nodup_foldl_ensure addresses (distinct.sublist (List.filter_sublist.map _))

theorem nodup_after (events : List Event) :
    ((after events).rows.map NodeStatus.address).Nodup := by
  induction events using List.reverseRecOn with
  | nil => exact List.nodup_nil
  | append_singleton events event ih =>
      rw [after, List.foldl_append, List.foldl_cons, List.foldl_nil]
      exact nodup_take ih event

variable {table : StatusTable}

private theorem mem_rows_iff (distinct : (table.rows.map NodeStatus.address).Nodup)
    (row : NodeStatus) :
    row ∈ table.rows ↔ table.get? row.address = some row := by
  constructor
  · intro present
    cases found : table.get? row.address with
    | none =>
        rw [get?, List.find?_eq_none] at found
        exact absurd (decide_eq_true rfl) (found row present)
    | some other =>
        have same := address_of_get? found
        exact congrArg some
          (List.inj_on_of_nodup_map distinct (List.mem_of_find?_eq_some found) present same)
  · exact fun found => List.mem_of_find?_eq_some found

theorem mem_listing_iff (distinct : (table.rows.map NodeStatus.address).Nodup)
    (row : NodeStatus) : row ∈ table.listing ↔ table.get? row.address = some row := by
  rw [listing, List.mem_mergeSort, mem_rows_iff distinct]

private theorem pairwise_listing (distinct : (table.rows.map NodeStatus.address).Nodup) :
    table.listing.Pairwise fun first second => first.address.bytes < second.address.bytes := by
  have sorted : table.listing.Pairwise fun first second =>
      first.address.precedes second.address = true := by
    refine List.pairwise_mergeSort ?_ ?_ table.rows
    · intro first second third before behind
      simp only [Address.precedes, decide_eq_true_eq] at before behind ⊢
      exact List.le_trans before behind
    · intro first second
      simp only [Address.precedes, Bool.or_eq_true, decide_eq_true_eq]
      exact List.le_total _ _
  have apart : table.listing.Pairwise fun first second => first.address ≠ second.address := by
    rw [← List.pairwise_map]
    exact ((List.mergeSort_perm table.rows _).map _).nodup_iff.mpr distinct
  refine (sorted.and apart).imp fun both => ?_
  exact Std.lt_of_le_of_ne (of_decide_eq_true both.1)
    fun same => both.2 (Address.bytes_injective same)

/-- The table after any events: who has a row, what each row tells, that rows of nodes that
stay listed are kept, and that a listing is all rows by rising addresses. -/
theorem rows_tell_updates (events : List Event) :
    (∀ address, ((after events).get? address).isSome ↔
      address ∈ lastTracked events ∨
        ∃ update, .updates update ∈ sinceTracked events ∧ update.address = address) ∧
    (∀ address row, (after events).get? address = some row →
      row.address = address ∧
        ∃ earlier life, events = earlier ++ life ∧ Lifespan address earlier life ∧
          row.Tells (NodeStatus.ownUpdates address life)) ∧
    (∀ addresses address row, address ∈ addresses → (after events).get? address = some row →
      ((after events).track addresses).get? address = some row) ∧
    (∀ row, row ∈ (after events).listing ↔ (after events).get? row.address = some row) ∧
    (after events).listing.Pairwise fun first second =>
      first.address.bytes < second.address.bytes := by
  have distinct := nodup_after events
  refine ⟨isSome_get?_after_iff events, ?_, ?_, mem_listing_iff distinct,
    pairwise_listing distinct⟩
  · intro address row found
    obtain ⟨earlier, life, split, lifespan, tells⟩ := exists_lifespan address events
    rw [found] at tells
    exact ⟨address_of_get? found, earlier, life, split, lifespan, tells⟩
  · intro addresses address row listed found
    rw [get?_track, if_pos listed, found, Option.getD_some]

def lateReading : Entry :=
  { id := 4, dest := .numbered 1, src := .numbered 3, data := Reading.zero, receivedAt := 60 }

/-- The third node is dropped by a list, comes back with a fault, and answers. -/
def comeback : List Event :=
  [ .tracks [.numbered 3, .numbered 2], .updates (.polled (.numbered 3)),
    .updates (.noticed (.numbered 2) .noResponse), .tracks [.numbered 2],
    .updates (.noticed (.numbered 3) (.faultReported 10)), .updates (.polled (.numbered 3)),
    .updates (.replied lateReading), .updates (.noticed (.numbered 3) .noResponse) ]

theorem rows_tell_updates_comeback :
    (∃ row, (after comeback).get? (.numbered 3) = some row ∧ row.pollsSent = 1 ∧
      row.lastError = none ∧ row.lastReplyAt = some 60 ∧ row.consecutiveTimeouts = 1 ∧
        row ∈ (after comeback).listing) ∧
    ∃ earlier life, comeback = earlier ++ life ∧ Lifespan (.numbered 3) earlier life ∧
      (NodeStatus.ownUpdates (.numbered 3) life).countP NodeStatus.Update.isPoll = 1 := by
  obtain ⟨there, tells, _, listed, _⟩ := rows_tell_updates comeback
  have since : sinceTracked comeback = comeback.drop 4 := rfl
  have present : ((after comeback).get? (.numbered 3)).isSome := by
    rw [there, since]
    exact .inr ⟨.polled (.numbered 3), by simp [comeback], rfl⟩
  obtain ⟨row, found⟩ := Option.isSome_iff_exists.mp present
  have shown : ((after comeback).get? (.numbered 3)).map (fun row =>
      (row.pollsSent, row.lastError, row.lastReplyAt, row.consecutiveTimeouts)) =
        some (1, none, some 60, 1) := by
    decide +kernel
  rw [found, Option.map_some, Option.some.injEq] at shown
  simp only [Prod.mk.injEq] at shown
  obtain ⟨polls, error, replied, silences⟩ := shown
  obtain ⟨own, earlier, life, split, lifespan, told⟩ := tells _ row found
  refine ⟨⟨row, found, polls, error, replied, silences, ?_⟩, earlier, life, split, lifespan, ?_⟩
  · rw [listed, own]
    exact found
  · rw [← told.pollsSent, polls]

end StatusTable

end FloodMesh
