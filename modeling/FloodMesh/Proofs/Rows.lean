/-
A status table row by row.

Whatever comes to a table is an update of one node's row or a new list of nodes to
track. Each row is made of what came for its own node: an update changes it, or makes
it, a list keeps it, makes it or drops it, and everything else leaves it alone.
-/

import FloodMesh.StatusTable
import Mathlib.Data.List.Basic

namespace FloodMesh

/-! ### Rows of a table -/

namespace StatusTable

theorem address_of_get? {table : StatusTable} {address : Address} {row : NodeStatus}
    (found : table.get? address = some row) : row.address = address := by
  simpa using List.find?_some found

private theorem get?_ensure (table : StatusTable) (address other : Address) :
    (table.ensure address).get? other =
      if other = address then some ((table.get? address).getD { address })
      else table.get? other := by
  unfold ensure
  cases found : table.get? address with
  | some row =>
      rw [if_pos (by rfl)]
      by_cases same : other = address
      · rw [if_pos same, same, found]
        rfl
      · rw [if_neg same]
  | none =>
      rw [if_neg (by simp)]
      unfold get? at found ⊢
      rw [List.find?_append]
      by_cases same : other = address
      · rw [if_pos same, same, found]
        simp
      · have different : address ≠ other := fun equal => same equal.symm
        rw [if_neg same, List.find?_cons_of_neg (by simpa using different), List.find?_nil,
          Option.or_none]

private theorem get?_change {edit : NodeStatus → NodeStatus}
    (kept : ∀ row, (edit row).address = row.address) (table : StatusTable)
    (address other : Address) :
    (table.change address edit).get? other =
      if other = address then some (edit ((table.get? address).getD { address }))
      else table.get? other := by
  have ensured := get?_ensure table address other
  unfold change get? at *
  rw [List.find?_map]
  have looksFor : ((fun row : NodeStatus => decide (row.address = other)) ∘ fun row =>
      if row.address = address then edit row else row) =
        fun row => decide (row.address = other) := by
    funext row
    simp only [Function.comp_apply]
    split
    · rw [kept]
    · rfl
  rw [looksFor, ensured]
  by_cases same : other = address
  · subst same
    have placed : ((table.get? other).getD { address := other }).address = other := by
      cases found : table.get? other with
      | none => rfl
      | some row => exact address_of_get? found
    rw [if_pos rfl, if_pos rfl, Option.map_some]
    exact congrArg some (if_pos placed)
  · rw [if_neg same, if_neg same]
    cases found : table.get? other with
    | none =>
        unfold get? at found
        rw [found]
        rfl
    | some row =>
        have elsewhere : row.address ≠ address := by
          rw [address_of_get? found]
          exact same
        unfold get? at found
        rw [found, Option.map_some, if_neg elsewhere]

private theorem get?_foldl_ensure (addresses : List Address) (table : StatusTable)
    (address : Address) :
    (addresses.foldl ensure table).get? address =
      if address ∈ addresses then some ((table.get? address).getD { address })
      else table.get? address := by
  induction addresses generalizing table with
  | nil => rfl
  | cons first rest ih =>
      rw [List.foldl_cons, ih, get?_ensure]
      by_cases same : address = first
      · subst same
        simp
      · simp [same]

theorem get?_track (table : StatusTable) (addresses : List Address) (address : Address) :
    (table.track addresses).get? address =
      if address ∈ addresses then some ((table.get? address).getD { address }) else none := by
  have filtered : get? { rows := table.rows.filter fun row => addresses.contains row.address }
      address = if address ∈ addresses then table.get? address else none := by
    unfold get?
    rw [List.find?_filter]
    by_cases listed : address ∈ addresses
    · rw [if_pos listed]
      congr 1
      funext row
      by_cases same : row.address = address
      · simp [same, listed]
      · simp [same]
    · rw [if_neg listed, List.find?_eq_none]
      intro row _ both
      simp only [List.contains_eq_mem, decide_eq_true_eq] at both
      exact listed (both.2 ▸ both.1)
  unfold track
  rw [get?_foldl_ensure, filtered]
  split <;> rfl

end StatusTable

/-! ### What comes to a table -/

inductive NodeStatus.Update
  | polled (address : Address)
  | replied (entry : Entry)
  | noticed (address : Address) (notice : Notice)
  deriving DecidableEq

namespace NodeStatus

def Update.address : Update → Address
  | .polled address => address
  | .replied entry => entry.src
  | .noticed address _ => address

def apply (row : NodeStatus) : Update → NodeStatus
  | .polled _ => { row with pollsSent := row.pollsSent + 1 }
  | .replied entry =>
      { row with
        lastReplyAt := some entry.receivedAt
        lastData := some entry.data
        lastError := none
        consecutiveTimeouts := 0 }
  | .noticed _ .noResponse => { row with consecutiveTimeouts := row.consecutiveTimeouts + 1 }
  | .noticed _ (.faultReported code) => { row with lastError := some code }
  | .noticed _ .sendFailed => { row with sendFailures := row.sendFailures + 1 }

theorem address_apply (row : NodeStatus) (update : Update) :
    (row.apply update).address = row.address := by
  cases update with
  | polled address => rfl
  | replied entry => rfl
  | noticed address notice => cases notice <;> rfl

end NodeStatus

inductive StatusTable.Event
  | updates (update : NodeStatus.Update)
  | tracks (addresses : List Address)

def StatusTable.Event.isReplyOf (address : Address) : Event → Bool
  | .updates (.replied entry) => entry.src = address
  | _ => false

/-- A node's row, if it has one, after what came to the table. -/
def NodeStatus.rowAfter (address : Address) (row : Option NodeStatus) :
    StatusTable.Event → Option NodeStatus
  | .updates update =>
      if update.address = address then some ((row.getD { address }).apply update) else row
  | .tracks addresses =>
      if address ∈ addresses then some (row.getD { address }) else none

namespace StatusTable

def update (table : StatusTable) : NodeStatus.Update → StatusTable
  | .polled address => table.recordPoll address
  | .replied entry => table.recordReply entry
  | .noticed address notice => table.note address notice

def take (table : StatusTable) : Event → StatusTable
  | .updates update => table.update update
  | .tracks addresses => table.track addresses

theorem update_eq_change (table : StatusTable) (update : NodeStatus.Update) :
    table.update update = table.change update.address fun row => row.apply update := by
  cases update with
  | polled address => rfl
  | replied entry => rfl
  | noticed address notice => cases notice <;> rfl

theorem get?_take (table : StatusTable) (event : Event) (address : Address) :
    (table.take event).get? address = NodeStatus.rowAfter address (table.get? address) event := by
  cases event with
  | updates update =>
      rw [take, update_eq_change,
        get?_change fun row => NodeStatus.address_apply row update]
      by_cases same : update.address = address
      · subst same
        rw [if_pos rfl]
        exact (if_pos rfl).symm
      · have different : address ≠ update.address := fun equal => same equal.symm
        rw [if_neg different]
        exact (if_neg same).symm
  | tracks addresses => exact get?_track table addresses address

/-- A row is made of what came for its node. -/
theorem get?_foldl_take (events : List Event) (table : StatusTable) (address : Address) :
    (events.foldl take table).get? address =
      events.foldl (NodeStatus.rowAfter address) (table.get? address) := by
  induction events generalizing table with
  | nil => rfl
  | cons event rest ih => rw [List.foldl_cons, List.foldl_cons, ih, get?_take]

end StatusTable

/-! ### Rows from tracking on -/

namespace NodeStatus

variable {address : Address} {events : List StatusTable.Event}

/-- Without another list, a row is there that was there, or for which an update came. -/
theorem isSome_foldl_rowAfter_iff {start : Option NodeStatus}
    (untracked : ∀ addresses, .tracks addresses ∉ events) :
    (events.foldl (rowAfter address) start).isSome ↔
      start.isSome ∨ ∃ update, .updates update ∈ events ∧ update.address = address := by
  induction events generalizing start with
  | nil => simp
  | cons event rest ih =>
      have later : ∀ addresses, .tracks addresses ∉ rest :=
        fun addresses inRest => untracked addresses (List.mem_cons_of_mem _ inRest)
      rw [List.foldl_cons, ih later]
      cases event with
      | tracks addresses => exact absurd List.mem_cons_self (untracked addresses)
      | updates update =>
          by_cases same : update.address = address
          · refine iff_of_true (.inl ?_) (.inr ⟨update, List.mem_cons_self, same⟩)
            simp only [rowAfter]
            rw [if_pos same]
            rfl
          · simp only [rowAfter]
            rw [if_neg same]
            constructor
            · rintro (there | ⟨other, inRest, own⟩)
              · exact .inl there
              · exact .inr ⟨other, List.mem_cons_of_mem _ inRest, own⟩
            · rintro (there | ⟨other, among, own⟩)
              · exact .inl there
              · rcases List.mem_cons.mp among with equal | inRest
                · cases equal
                  exact absurd own same
                · exact .inr ⟨other, inRest, own⟩

private theorem lastError_rowAfter (row : NodeStatus) {event : StatusTable.Event}
    (tracked : ∀ addresses, event = .tracks addresses → address ∈ addresses)
    (faultless : ∀ code, event ≠ .updates (.noticed address (.faultReported code))) :
    ∃ later, rowAfter address (some row) event = some later ∧
      later.lastError = if event.isReplyOf address then none else row.lastError := by
  cases event with
  | tracks addresses => exact ⟨row, if_pos (tracked addresses rfl), rfl⟩
  | updates update =>
      by_cases own : update.address = address
      · refine ⟨row.apply update, if_pos own, ?_⟩
        cases update with
        | polled other => rfl
        | replied entry => exact (if_pos (decide_eq_true own)).symm
        | noticed other notice =>
            cases own
            cases notice with
            | noResponse => rfl
            | sendFailed => rfl
            | faultReported code => exact absurd rfl (faultless code)
      · refine ⟨row, if_neg own, ?_⟩
        cases update with
        | polled other => rfl
        | noticed other notice => rfl
        | replied entry => exact (if_neg fun same => own (of_decide_eq_true same)).symm

/-- The last fault stands until a reply is recorded, if no other fault comes. -/
theorem lastError_foldl_rowAfter (row : NodeStatus)
    (tracked : ∀ addresses, .tracks addresses ∈ events → address ∈ addresses)
    (faultless : ∀ code, .updates (.noticed address (.faultReported code)) ∉ events) :
    ∃ later, events.foldl (rowAfter address) (some row) = some later ∧
      later.lastError =
        if events.any (StatusTable.Event.isReplyOf address) then none else row.lastError := by
  induction events generalizing row with
  | nil => exact ⟨row, rfl, rfl⟩
  | cons event rest ih =>
      obtain ⟨next, nextEq, errorNext⟩ := lastError_rowAfter row
        (fun addresses equal => tracked addresses (equal ▸ List.mem_cons_self))
        (fun code equal => faultless code (equal ▸ List.mem_cons_self))
      obtain ⟨later, laterEq, errorLater⟩ := ih next
        (fun addresses inRest => tracked addresses (List.mem_cons_of_mem _ inRest))
        (fun code inRest => faultless code (List.mem_cons_of_mem _ inRest))
      refine ⟨later, by rw [List.foldl_cons, nextEq, laterEq], ?_⟩
      rw [errorLater, errorNext, List.any_cons]
      cases event.isReplyOf address <;> cases rest.any (StatusTable.Event.isReplyOf address) <;> rfl

end NodeStatus

end FloodMesh
