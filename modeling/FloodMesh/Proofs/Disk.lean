/-
Disks that refuse steps.

What a disk does, it does as the step tells. But it may refuse any step for a cause of its
own, and a step that failed may leave some of the directories it was to make, or the
beginning of what it was to write or to add. The plain disk refuses only what the tree
refuses.
-/

import FloodMesh.Proofs.Growth

namespace FloodMesh

namespace FileStep

/-- What a tree may become by a step that fails. -/
inductive Leaves : FileStep → FileTree → FileTree → Prop
  | nothing (step : FileStep) (tree : FileTree) : Leaves step tree tree
  | directories {path : Path} {tree later : FileTree} :
      FileTree.Made (fun above => above = path ∨ path.Under above) tree later →
        Leaves (.makeDirectories path) tree later
  | torn {path : Path} {content part : Bytes} {tree later : FileTree} : part <+: content →
      tree.write path part = .ok later → Leaves (.write path content) tree later
  | short {path : Path} {content part : Bytes} {tree later : FileTree} : part <+: content →
      tree.append path part = .ok later → Leaves (.append path content) tree later

/-- What becomes of a change that was made, or could not be. -/
theorem settled_eq_ok {result : Except FileError FileTree} {tree later : FileTree}
    (settled : (match result with
      | .ok changed => (Except.ok (), changed)
      | .error cause => (Except.error cause, tree)) = (Except.ok (), later)) :
    result = .ok later := by
  split at settled
  · cases settled
    rfl
  · cases settled

private theorem settled_eq_error {result : Except FileError FileTree} {tree later : FileTree}
    {cause : FileError}
    (settled : (match result with
      | .ok changed => (Except.ok (), changed)
      | .error cause => (Except.error cause, tree)) = (Except.error cause, later)) :
    later = tree := by
  split at settled
  · cases settled
  · cases settled
    rfl

theorem leaves_of_run {step : FileStep} {tree later : FileTree} {cause : FileError}
    (failed : step.run tree = (.error cause, later)) : step.Leaves tree later := by
  cases step with
  | makeDirectories path =>
      simp only [run] at failed
      split at failed
      · cases failed
      · rename_i ran
        cases failed
        exact .directories (FileTree.made_of_makeDirectories ran).1
  | write path content =>
      rw [settled_eq_error failed]
      exact .nothing _ _
  | openToAppend path =>
      rw [settled_eq_error failed]
      exact .nothing _ _
  | append path content =>
      rw [settled_eq_error failed]
      exact .nothing _ _
  | rename source target =>
      rw [settled_eq_error failed]
      exact .nothing _ _

end FileStep

structure Disk where
  run : FileStep → FileTree → Except FileError Unit × FileTree
  done : ∀ {step tree later}, run step tree = (.ok (), later) → step.run tree = (.ok (), later)
  left : ∀ {step tree cause later}, run step tree = (.error cause, later) → step.Leaves tree later

namespace Disk

def plain : Disk := { run := FileStep.run, done := id, left := FileStep.leaves_of_run }

/-- Runs steps in order up to the first that the disk refuses. -/
def runAll (disk : Disk) : List FileStep → FileTree → Except (FileStep × FileError) Unit × FileTree
  | [], tree => (.ok (), tree)
  | step :: rest, tree =>
      match disk.run step tree with
      | (.ok (), later) => runAll disk rest later
      | (.error cause, later) => (.error (step, cause), later)

theorem plain_runAll (steps : List FileStep) (tree : FileTree) :
    plain.runAll steps tree = FileStep.runAll steps tree := by
  induction steps generalizing tree with
  | nil => rfl
  | cons step rest ih =>
      rw [runAll, FileStep.runAll]
      split
      · rename_i ran
        rw [show step.run tree = _ from ran]
        exact ih _
      · rename_i ran
        rw [show step.run tree = _ from ran]

theorem runAll_append (disk : Disk) (first second : List FileStep) (tree : FileTree) :
    disk.runAll (first ++ second) tree =
      match disk.runAll first tree with
      | (.ok (), between) => disk.runAll second between
      | failed => failed := by
  induction first generalizing tree with
  | nil => rfl
  | cons step rest ih =>
      rw [List.cons_append, runAll, runAll]
      split
      · exact ih _
      · rfl

theorem runAll_append_eq_ok {disk : Disk} {first second : List FileStep} {tree later : FileTree}
    (done : disk.runAll (first ++ second) tree = (.ok (), later)) :
    ∃ between, disk.runAll first tree = (.ok (), between) ∧
      disk.runAll second between = (.ok (), later) := by
  rw [runAll_append] at done
  split at done
  · rename_i between before
    exact ⟨between, before, done⟩
  · rename_i unfinished
    exact absurd done (unfinished later)

theorem runAll_append_eq_error {disk : Disk} {first second : List FileStep}
    {tree later : FileTree} {failed : FileStep × FileError}
    (ended : disk.runAll (first ++ second) tree = (.error failed, later)) :
    disk.runAll first tree = (.error failed, later) ∨
      ∃ between, disk.runAll first tree = (.ok (), between) ∧
        disk.runAll second between = (.error failed, later) := by
  rw [runAll_append] at ended
  split at ended
  · rename_i between before
    exact .inr ⟨between, before, ended⟩
  · exact .inl ended

theorem runAll_cons_eq_ok {disk : Disk} {step : FileStep} {rest : List FileStep}
    {tree later : FileTree} (done : disk.runAll (step :: rest) tree = (.ok (), later)) :
    ∃ between, disk.run step tree = (.ok (), between) ∧
      disk.runAll rest between = (.ok (), later) := by
  rw [runAll] at done
  split at done
  · rename_i between ran
    exact ⟨between, ran, done⟩
  · cases done

theorem runAll_cons_eq_error {disk : Disk} {step : FileStep} {rest : List FileStep}
    {tree later : FileTree} {failed : FileStep × FileError}
    (ended : disk.runAll (step :: rest) tree = (.error failed, later)) :
    disk.run step tree = (.error failed.2, later) ∨
      ∃ between, disk.run step tree = (.ok (), between) ∧
        disk.runAll rest between = (.error failed, later) := by
  rw [runAll] at ended
  split at ended
  · rename_i between ran
    exact .inr ⟨between, ran, ended⟩
  · rename_i ran
    cases ended
    exact .inl ran

theorem runAll_singleton_eq_ok {disk : Disk} {step : FileStep} {tree later : FileTree}
    (done : disk.runAll [step] tree = (.ok (), later)) : disk.run step tree = (.ok (), later) := by
  obtain ⟨between, ran, ended⟩ := runAll_cons_eq_ok done
  cases ended
  exact ran

theorem runAll_singleton_eq_error {disk : Disk} {step : FileStep} {tree later : FileTree}
    {failed : FileStep × FileError} (ended : disk.runAll [step] tree = (.error failed, later)) :
    disk.run step tree = (.error failed.2, later) := by
  obtain ran | ⟨between, -, ended⟩ := runAll_cons_eq_error ended
  · exact ran
  · cases ended

/-- The first step that fails ends the job. -/
theorem runAll_of_failed {disk : Disk} {earlier rest : List FileStep} {step : FileStep}
    {tree between later : FileTree} {cause : FileError}
    (before : disk.runAll earlier tree = (.ok (), between))
    (failed : disk.run step between = (.error cause, later)) :
    disk.runAll (earlier ++ step :: rest) tree = (.error (step, cause), later) := by
  rw [runAll_append, before]
  simp only [runAll, failed]

end Disk

/-! ### What a step keeps -/

namespace FileTree

variable {tree later : FileTree} {path source target : Path} {content : Bytes}

theorem write_eq_ok (done : tree.write path content = .ok later) :
    ∃ place, tree.resolve path = .ok place ∧ tree.lookup place ≠ some .directory ∧
      path.wantsDirectory = false ∧ later = tree.put place (.file content) := by
  obtain ⟨⟨place, present⟩, granted, made⟩ := bind_eq_ok_iff.mp done
  cases made
  obtain ⟨walked, free, plain⟩ := writable_eq_ok granted
  exact ⟨place, walked, free, plain, rfl⟩

/-- Only where the path leads anything was written. -/
theorem fileAt_of_write (done : tree.write path content = .ok later) {place : Place}
    (apart : later.resolve path ≠ .ok place) : later.fileAt place = tree.fileAt place := by
  obtain ⟨own, walked, free, -, rfl⟩ := write_eq_ok done
  have different : place ≠ own := by
    rintro rfl
    exact apart ((keeps_put free).resolve walked)
  exact fileAt_put_of_ne different

/-- Where the file is, it holds what it held, or nothing yet. -/
theorem openToAppend_eq_ok (done : tree.openToAppend path = .ok later) :
    ∃ place, tree.resolve path = .ok place ∧ tree.lookup place ≠ some .directory ∧
      path.wantsDirectory = false ∧
      later = tree.put place (.file ((tree.fileAt place).getD [])) := by
  obtain ⟨⟨place, present⟩, granted, made⟩ := bind_eq_ok_iff.mp done
  cases made
  obtain ⟨walked, free, plain⟩ := writable_eq_ok granted
  have same : present = tree.fileAt place := by
    have noDot : path.endsInDot = false := (Bool.or_eq_false_iff.mp plain).2
    rw [writable, noDot, plain] at granted
    obtain ⟨reached, again, granted⟩ := bind_eq_ok_iff.mp granted
    rw [walked] at again
    cases again
    unfold fileAt
    split at granted <;> rename_i lies <;> cases granted <;> rw [lies]
  exact ⟨place, walked, free, plain, by rw [same]⟩

/-- What is added goes behind what the file holds. -/
theorem append_eq_ok (done : tree.append path content = .ok later) :
    ∃ place present, tree.resolve path = .ok place ∧ path.wantsDirectory = false ∧
      tree.fileAt place = some present ∧ later = tree.put place (.file (present ++ content)) := by
  obtain ⟨place, walked, done⟩ := bind_eq_ok_iff.mp done
  obtain ⟨item, found, done⟩ := bind_eq_ok_iff.mp done
  obtain ⟨reached, again, lies, fits⟩ := find_eq_ok_iff.mp found
  rw [walked] at again
  cases again
  cases item with
  | directory => cases done
  | file present =>
      cases done
      have plain : path.wantsDirectory = false := by
        rw [← Bool.not_eq_true]
        exact fun wants => absurd (fits wants) (by simp)
      exact ⟨place, present, walked, plain, fileAt_eq_some_iff.mpr lies, rfl⟩

/-- A file moves to where the target leads, unless it lies there already. -/
theorem rename_eq_ok (done : tree.rename source target = .ok later) :
    ∃ start goal content, tree.find source = .ok (.file content) ∧
      tree.resolve target = .ok goal ∧ tree.lookup start = some (.file content) ∧
      ¬ target.wantsDirectory = true ∧
      (start = goal ∧ later = tree ∨
        goal ≠ start ∧ tree.lookup goal ≠ some .directory ∧
          later = (tree.remove start).put goal (.file content)) := by
  obtain ⟨start, walked, done⟩ := bind_eq_ok_iff.mp done
  obtain ⟨goal, goes, done⟩ := bind_eq_ok_iff.mp done
  obtain ⟨item, found, done⟩ := bind_eq_ok_iff.mp done
  obtain ⟨start', again, lies, -⟩ := find_eq_ok_iff.mp found
  rw [walked] at again
  cases again
  cases item with
  | directory => cases done
  | file content =>
      dsimp only at done
      split at done
      · cases done
      rename_i plain
      refine ⟨start, goal, content, found, goes, lies, plain, ?_⟩
      split at done
      · rename_i same
        cases done
        exact .inl ⟨same, rfl⟩
      rename_i apart
      split at done
      · cases done
      rename_i noDirectory
      cases done
      exact .inr ⟨Ne.symm apart, by simpa [isDirectoryAt] using noDirectory, rfl⟩

theorem find_rename (done : tree.rename source target = .ok later) :
    ∃ content, tree.find source = .ok (.file content) ∧
      later.find target = .ok (.file content) := by
  obtain ⟨start, goal, content, found, goes, lies, plain, moved⟩ := rename_eq_ok done
  refine ⟨content, found, ?_⟩
  obtain ⟨rfl, rfl⟩ | ⟨apart, noDirectory, rfl⟩ := moved
  · exact find_eq_ok_iff.mpr ⟨start, goes, lies, fun wants => absurd wants plain⟩
  · have free : tree.lookup start ≠ some .directory := by
      rw [lies]
      exact nofun
    rw [← lookup_remove_of_ne apart] at noDirectory
    have removed := keeps_remove free
    have put : Keeps (tree.remove start) ((tree.remove start).put goal (.file content)) :=
      keeps_put noDirectory
    exact find_eq_ok_iff.mpr ⟨goal, put.resolve (removed.resolve goes),
      lookup_put_self (ne_nil_of_free noDirectory), fun wants => absurd wants plain⟩

end FileTree

/-! ### What a disk may do with a step -/

namespace Disk

variable {disk : Disk} {path source target : Path} {content : Bytes} {tree later : FileTree}
  {result : Except FileError Unit} {cause : FileError}

theorem made_of_run (ran : disk.run (.makeDirectories path) tree = (result, later)) :
    FileTree.Made (fun above => above = path ∨ path.Under above) tree later := by
  cases result with
  | error cause =>
      cases disk.left ran with
      | nothing => exact .nothing _
      | directories made => exact made
  | ok done =>
      have did := disk.done ran
      simp only [FileStep.run] at did
      split at did
      · rename_i made partly ran
        cases did
        obtain ⟨grown, same⟩ := FileTree.made_of_makeDirectories ran
        rw [same later rfl]
        exact grown
      · cases did

theorem write_of_run (ran : disk.run (.write path content) tree = (.ok (), later)) :
    tree.write path content = .ok later :=
  FileStep.settled_eq_ok (disk.done ran)

theorem openToAppend_of_run (ran : disk.run (.openToAppend path) tree = (.ok (), later)) :
    tree.openToAppend path = .ok later :=
  FileStep.settled_eq_ok (disk.done ran)

theorem append_of_run (ran : disk.run (.append path content) tree = (.ok (), later)) :
    tree.append path content = .ok later :=
  FileStep.settled_eq_ok (disk.done ran)

theorem rename_of_run (ran : disk.run (.rename source target) tree = (.ok (), later)) :
    tree.rename source target = .ok later :=
  FileStep.settled_eq_ok (disk.done ran)

/-- A write that failed did nothing or wrote a beginning. -/
theorem write_of_failed (failed : disk.run (.write path content) tree = (.error cause, later)) :
    later = tree ∨ ∃ part, part <+: content ∧ tree.write path part = .ok later := by
  cases disk.left failed with
  | nothing => exact .inl rfl
  | torn starts wrote => exact .inr ⟨_, starts, wrote⟩

theorem fileAt_of_write_run (ran : disk.run (.write path content) tree = (result, later))
    {place : Place} (apart : later.resolve path ≠ .ok place) :
    later.fileAt place = tree.fileAt place := by
  cases result with
  | ok done => exact FileTree.fileAt_of_write (write_of_run ran) apart
  | error cause =>
      obtain rfl | ⟨part, -, wrote⟩ := write_of_failed ran
      · rfl
      · exact FileTree.fileAt_of_write wrote apart

theorem openToAppend_of_failed
    (failed : disk.run (.openToAppend path) tree = (.error cause, later)) : later = tree := by
  cases disk.left failed
  rfl

/-- So did an addition. -/
theorem append_of_failed (failed : disk.run (.append path content) tree = (.error cause, later)) :
    later = tree ∨ ∃ part, part <+: content ∧ tree.append path part = .ok later := by
  cases disk.left failed with
  | nothing => exact .inl rfl
  | short starts added => exact .inr ⟨_, starts, added⟩

theorem rename_of_failed (failed : disk.run (.rename source target) tree = (.error cause, later)) :
    later = tree := by
  cases disk.left failed
  rfl

/-- The directories above a path that a job makes first. -/
theorem made_of_runAll {result : Except (FileStep × FileError) Unit}
    (ran : disk.runAll (path.parent?.toList.map .makeDirectories) tree = (result, later)) :
    FileTree.Made path.Under tree later := by
  cases above : path.parent? with
  | none =>
      rw [above] at ran
      cases ran
      exact .nothing _
  | some parent =>
      rw [above] at ran
      simp only [Option.toList_some, List.map_cons, List.map_nil, runAll] at ran
      have higher : ∀ other, other = parent ∨ parent.Under other → path.Under other := by
        rintro other (rfl | under)
        · exact .single above
        · exact .head above under
      split at ran
      · rename_i did
        cases ran
        exact (made_of_run did).mono higher
      · rename_i refused
        cases ran
        exact (made_of_run refused).mono higher

end Disk

end FloodMesh
