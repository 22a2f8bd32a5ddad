/-
What clears a node's last fault.

A fault is in the table at once, a reading only when the poller finds it. The poller
takes the oldest reading of the node that lies in the queue and leaves it there. So a
reading from before the fault may be found after it, and clears the fault. Nothing
else does before the node's next response.
-/

import FloodMesh.Proofs.Bureau
import FloodMesh.Proofs.Suppression

namespace FloodMesh

def Report.isResponseOf (address : Address) : Report → Bool
  | .queued entry => entry.src = address
  | .faulted src _ => src = address
  | _ => false

def Report.isReplyOf (address : Address) : Report → Bool
  | .polled _ (.replied entry) => entry.src = address
  | _ => false

private theorem any_isReplyOf_event? (address : Address) (reports : List Report) :
    (reports.filterMap Report.event?).any (StatusTable.Event.isReplyOf address) =
      reports.any (Report.isReplyOf address) := by
  rw [List.any_filterMap]
  congr 1
  funext report
  cases report with
  | polled version update => cases update <;> rfl
  | queued | faulted | tracked => rfl

namespace Bureau

variable {bureau told later : Bureau} {surroundings : Surroundings} {frame : Bytes}
  {moves : List Move} {reports : List Report} {address : Address} {code : UInt8}

/-- The row of a node whose fault was just dispatched. -/
theorem row_of_fault (dispatched : bureau.step? (.hears surroundings frame) =
    some ([.faulted address code], told)) :
    ∃ row, told.node.status.get? address = some row ∧ row.lastError = some code := by
  rw [status_step? dispatched, StatusTable.get?_told]
  exact ⟨_, if_pos rfl, rfl⟩

private theorem faultless_of_follow? (followed : told.follow? moves = some (reports, later))
    (latest : ∀ report ∈ reports, report.isResponseOf address = false) (code : UInt8) :
    .updates (.noticed address (.faultReported code)) ∉ reports.filterMap Report.event? := by
  intro among
  rcases Report.updates_mem_iff.mp among with ⟨src, other, member, same⟩ | ⟨version, member⟩
  · cases same
    have silent := latest _ member
    simp [Report.isResponseOf] at silent
  · exact (written_of_follow? followed member).1 address code rfl

/-- A fault was dispatched, and since then no response of the node. The fault stands in
the node's row exactly until the poller records a reply of the node, and every such
reply lay in the queue already when the fault came. So if none lay there, the fault
stands, whatever the tasks do. -/
theorem lastError_after_fault
    (dispatched : bureau.step? (.hears surroundings frame) =
      some ([.faulted address code], told))
    (followed : told.follow? moves = some (reports, later))
    (latest : ∀ report ∈ reports, report.isResponseOf address = false)
    (tracked : ∀ addresses, .tracked addresses ∈ reports → address ∈ addresses) :
    ∃ row, later.node.status.get? address = some row ∧
      row.lastError =
        (if reports.any (Report.isReplyOf address) then none else some code) ∧
      ∀ version entry, .polled version (.replied entry) ∈ reports → entry.src = address →
        entry ∈ bureau.node.queue.entries := by
  obtain ⟨row, there, errorEq⟩ := row_of_fault dispatched
  obtain ⟨last, lastEq, errorLast⟩ := NodeStatus.lastError_foldl_rowAfter row
    (fun addresses among => tracked addresses (Report.tracks_mem_iff.mp among))
    (faultless_of_follow? followed latest)
  refine ⟨last, ?_, ?_, ?_⟩
  · rw [status_follow? followed, StatusTable.get?_told, there, lastEq]
  · rw [errorLast, any_isReplyOf_event?, errorEq]
  · intro version entry recorded own
    rcases (written_of_follow? followed recorded).2 entry rfl with lay | new
    · rcases queue_step? dispatched lay with before | alongside
      · exact before
      · simp at alongside
    · have silent := latest _ new
      simp [Report.isResponseOf, own] at silent

/-! ### A fault and a poll -/

def oldReading : Entry :=
  { id := 1, dest := .numbered 1, src := .numbered 2, data := Reading.zero, receivedAt := 0 }

def hearsReading : Move :=
  .hears { verdict := none, now := 0 }
    (response (.numbered 2) (.reading Reading.zero)).frame

def hearsFault : Move :=
  .hears { verdict := none, now := 0 }
    { response (.numbered 2) (.fault 10) with fingerprint := Life.ones }.frame

/-- The fault is the last response, and the poll after it finds the reading before it. -/
theorem cleared_by_older_reading :
    ∃ later, (small [.numbered 2]).follow?
          ([hearsReading, hearsFault] ++ List.replicate 9 (.polls none)) =
        some ([.queued oldReading, .faulted (.numbered 2) 10,
          .polled 0 (.polled (.numbered 2)), .polled 0 (.replied oldReading)], later) ∧
      (later.node.status.get? (.numbered 2)).map NodeStatus.lastError = some none := by
  have run : ((small [.numbered 2]).follow?
      ([hearsReading, hearsFault] ++ List.replicate 9 (.polls none))).map (fun result =>
        (result.1, (result.2.node.status.get? (.numbered 2)).map NodeStatus.lastError)) =
      some ([.queued oldReading, .faulted (.numbered 2) 10,
        .polled 0 (.polled (.numbered 2)), .polled 0 (.replied oldReading)], some none) := by
    decide +kernel
  obtain ⟨⟨reports, later⟩, followed, same⟩ := Option.map_eq_some_iff.mp run
  obtain ⟨reportsEq, errorEq⟩ := Prod.mk.inj same
  cases reportsEq
  exact ⟨later, followed, errorEq⟩

/-- A poll that is never answered, with a reload in the middle. -/
def vainPoll : List Move :=
  List.replicate 9 (.polls none) ++
    [.tracks [.numbered 2, .numbered 3], .publishes, .passes 1000, .polls none]

def vainReports : List Report :=
  [ .polled 0 (.polled (.numbered 2)), .tracked [.numbered 2, .numbered 3],
    .polled 0 (.noticed (.numbered 2) .noResponse) ]

theorem lastError_after_fault_vainPoll :
    ∃ told later row,
      (small [.numbered 2]).step? hearsFault = some ([.faulted (.numbered 2) 10], told) ∧
        told.follow? vainPoll = some (vainReports, later) ∧
        later.node.status.get? (.numbered 2) = some row ∧ row.lastError = some 10 := by
  have step : ((small [.numbered 2]).step? hearsFault).map Prod.fst =
      some [.faulted (.numbered 2) 10] := by
    decide +kernel
  have run : ((small [.numbered 2]).follow? (hearsFault :: vainPoll)).map Prod.fst =
      some ([.faulted (.numbered 2) 10] ++ vainReports) := by
    decide +kernel
  obtain ⟨⟨reports, later⟩, followed, reportsEq⟩ := Option.map_eq_some_iff.mp run
  obtain ⟨first, told, others, dispatched, followedRest, rfl⟩ := follow?_cons_eq_some followed
  rw [dispatched] at step
  obtain rfl : first = [.faulted (.numbered 2) 10] := Option.some.inj step
  obtain rfl : others = vainReports := List.append_cancel_left reportsEq
  obtain ⟨row, there, errorEq, _⟩ := lastError_after_fault dispatched followedRest
    (by decide) (by simp [vainReports])
  exact ⟨told, later, row, dispatched, followedRest, there, errorEq⟩

end Bureau

end FloodMesh
