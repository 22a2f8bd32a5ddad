/-
A save replaces the file or leaves it alone.

The draft stands beside the file under another extension, so whatever a disk refuses, and
however much of the draft it has written by then, the file is the one that was there. Only
where the file has the extension of a draft itself is it written over in place, and a save
that fails then has destroyed what it was to replace.
-/

import FloodMesh.Proofs.Footing
import FloodMesh.Proofs.Spelling
import FloodMesh.Snapshot.File

namespace FloodMesh

/-! ### What is written is read -/

namespace Snapshot

private theorem legible_strings (texts : List String) :
    Json.legibleItems (texts.map .string) = true := by
  induction texts with
  | nil => rfl
  | cons text rest ih =>
      rw [List.map_cons, Json.legibleItems, ih]
      rfl

private theorem ofBytes?_toBytes {snapshot : Snapshot} (small : snapshot.capacity < capacityLimit) :
    ofBytes? snapshot.toBytes = some snapshot := by
  have clear : snapshot.toJson.legible = true := by
    simp [toJson, Json.strings, Json.legible, Json.legibleMembers, legible_strings, Json.ofNat]
  have texts : (snapshot.entries.map Json.string).mapM Json.text? = some snapshot.entries :=
    @Utf8.mapM_map_eq_some _ _ Json.string Json.text? (fun _ => rfl) snapshot.entries
  have members : ofJson? snapshot.toJson =
      ofParts? (.ofNat snapshot.capacity) (.strings snapshot.entries) := rfl
  rw [ofBytes?, toBytes, Json.ofBytes?_pretty clear, Option.bind_some, members, ofParts?]
  simp only [Json.ofNat, Json.nat?, Json.strings, Json.items?, Option.bind_eq_bind,
    Option.bind_some, texts, if_pos small]
  rfl

end Snapshot

/-! ### Saves -/

namespace Disk

def store (disk : Disk) (path : Path) : Store FileTree :=
  { save := fun snapshot tree =>
      match disk.runAll (snapshot.saveSteps path) tree with
      | (.ok (), later) => (.ok (), later)
      | (.error _, later) => (.error .unreachable, later)
    load := Snapshot.load path }

private theorem plain_store (path : Path) : plain.store path = Store.file path := by
  have same : plain.runAll = FileStep.runAll := by
    funext steps tree
    exact plain_runAll steps tree
  unfold store
  rw [same]
  exact rfl

variable {disk : Disk} {path : Path} {snapshot : Snapshot} {tree later : FileTree}

private theorem load_of_saved (small : snapshot.capacity < Snapshot.capacityLimit)
    (saved : (disk.store path).save snapshot tree = (.ok (), later)) :
    (disk.store path).load later = .ok (some snapshot) := by
  have ran : disk.runAll (snapshot.saveSteps path) tree = (.ok (), later) := by
    simp only [store] at saved
    split at saved
    · rename_i ran
      cases saved
      exact ran
    · cases saved
  obtain ⟨above, -, ran⟩ := runAll_append_eq_ok ran
  obtain ⟨drafted, wrote, ran⟩ := runAll_cons_eq_ok ran
  have wrote := write_of_run wrote
  have moved := rename_of_run (runAll_singleton_eq_ok ran)
  obtain ⟨content, held, found⟩ := FileTree.find_rename moved
  rw [FileTree.find_write wrote] at held
  cases held
  have read : later.read path = .ok snapshot.toBytes := by
    rw [FileTree.read, found]
    rfl
  simp only [store, Snapshot.load, read, Snapshot.ofBytes?_toBytes small]

end Disk

namespace Snapshot

/-- What a save that failed has done: made directories above the path, and then perhaps
written some of the draft. -/
def Drafted (path : Path) (tree later : FileTree) : Prop :=
  ∃ between, FileTree.Made path.Under tree between ∧
    (later = between ∨ ∃ part, between.write (draft path) part = .ok later)

structure Spared (path : Path) (tree later : FileTree) : Prop where
  others : ∀ place, later.resolve (draft path) ≠ .ok place →
    later.fileAt place = tree.fileAt place
  file : ∀ place, later.resolve path = .ok place → later.fileAt place = tree.fileAt place
  /-- Directories that were made can only matter to a path that led nowhere, if it leads back
  upwards or holds a name too long for them. -/
  load : load path tree ≠ .ok none ∨ (tree.resolve path).isOk = true ∨
      tree.Sound ∧ path.Straight →
    load path later = load path tree

variable {path : Path} {snapshot : Snapshot} {tree between later : FileTree}

private theorem drafted_of_failed {disk : Disk} {failed : FileStep × FileError}
    (ended : disk.runAll (snapshot.saveSteps path) tree = (.error failed, later)) :
    Drafted path tree later := by
  obtain above | ⟨between, above, ended⟩ := Disk.runAll_append_eq_error ended
  · exact ⟨later, Disk.made_of_runAll above, .inl rfl⟩
  · refine ⟨between, Disk.made_of_runAll above, ?_⟩
    obtain unwritten | ⟨drafted, wrote, unmoved⟩ := Disk.runAll_cons_eq_error ended
    · obtain same | ⟨part, -, wrote⟩ := Disk.write_of_failed unwritten
      · exact .inl same
      · exact .inr ⟨part, wrote⟩
    · have same := Disk.rename_of_failed (Disk.runAll_singleton_eq_error unmoved)
      rw [same]
      exact .inr ⟨_, Disk.write_of_run wrote⟩

private theorem Drafted.others (drafted : Drafted path tree later) {place : Place}
    (apart : later.resolve (draft path) ≠ .ok place) :
    later.fileAt place = tree.fileAt place := by
  obtain ⟨between, made, rfl | ⟨part, wrote⟩⟩ := drafted
  · exact made.fileAt place
  · rw [FileTree.fileAt_of_write wrote apart, made.fileAt]

private theorem noSlash_tmp : '/' ∉ "tmp".toList := by decide

/-- The path and its draft never lead to one place. -/
theorem draft_apart {name : List Char} (last : path.lastName? = some name)
    (different : (draft path).names ≠ path.names) {place : Place}
    (leads : tree.resolve path = .ok place) : tree.resolve (draft path) ≠ .ok place :=
  fun besides => FileTree.resolve_withExtension_ne last noSlash_tmp (by decide) different rfl
    besides leads rfl

/-- Writing the draft does not change what is read at the path. -/
theorem read_of_draft {name : List Char} (last : path.lastName? = some name)
    (different : (draft path).names ≠ path.names) {part : Bytes}
    (wrote : between.write (draft path) part = .ok later) :
    later.read path = between.read path := by
  obtain ⟨own, walked, free, -, rfl⟩ := FileTree.write_eq_ok wrote
  have grows := FileTree.grows_put_file part free
  cases leads : between.resolve path with
  | ok place =>
      have apart : place ≠ own := by
        rintro rfl
        exact draft_apart last different leads walked
      rw [FileTree.read, FileTree.read, FileTree.find, FileTree.find, leads, grows.resolve leads]
      simp only [bind, Except.bind, FileTree.lookup_put_of_ne apart]
  | error cause =>
      -- The draft was written, so the directory of the path is there.
      have other : cause ≠ .missing := by
        rintro rfl
        exact FileTree.resolve_ne_missing last noSlash_tmp (by decide) walked leads
      rw [FileTree.read, FileTree.read, FileTree.find, FileTree.find, leads,
        grows.resolve_error leads other]
      rfl

/-- Nor does making directories above it, unless it led nowhere for want of them. -/
theorem read_of_made {name : List Char} (last : path.lastName? = some name)
    (made : FileTree.Made path.Under tree between)
    (firm : load path tree ≠ .ok none ∨ (tree.resolve path).isOk = true ∨
      tree.Sound ∧ path.Straight) : between.read path = tree.read path := by
  cases leads : tree.resolve path with
  | ok place => rw [made.eq_of_resolve leads]
  | error cause =>
      by_cases missing : cause = .missing
      · -- The one answer that directories can change is that something was missing.
        subst missing
        have unread : tree.read path = .error .missing := by
          rw [FileTree.read, FileTree.find_missing_of_resolve leads]
          rfl
        obtain answered | resolved | ⟨sound, straight⟩ := firm
        · exact absurd (by rw [load, unread]) answered
        · rw [leads] at resolved
          cases resolved
        · rw [unread, FileTree.read, made.find_missing sound last straight leads]
          rfl
      · rw [FileTree.read, FileTree.read, FileTree.find, FileTree.find, leads,
          made.grows.resolve_error leads missing]
        rfl

private theorem spared_of_drafted {name : List Char} (last : path.lastName? = some name)
    (different : (draft path).names ≠ path.names) (drafted : Drafted path tree later) :
    Spared path tree later where
  others _ apart := drafted.others apart
  file _ leads := drafted.others (draft_apart last different leads)
  load firm := by
    obtain ⟨between, made, rfl | ⟨part, wrote⟩⟩ := drafted
    · rw [load, load, read_of_made last made firm]
    · rw [load, load, read_of_draft last different wrote, read_of_made last made firm]

end Snapshot

/-- On any disk, a save that succeeds is loaded as it was saved. If a step fails, whatever
was done before and whatever of it was done, the save tells so; and unless the file itself
has the name of a draft, it is as it was. -/
theorem Disk.store_replaces (disk : Disk) (path : Path) (snapshot : Snapshot)
    (tree later : FileTree) (small : snapshot.capacity < Snapshot.capacityLimit) :
    Disk.plain.store path = Store.file path ∧
      ((disk.store path).save snapshot tree = (.ok (), later) →
        (disk.store path).load later = .ok (some snapshot)) ∧
      ∀ earlier step rest between cause,
        snapshot.saveSteps path = earlier ++ step :: rest →
        disk.runAll earlier tree = (.ok (), between) →
        disk.run step between = (.error cause, later) →
        (disk.store path).save snapshot tree = (.error .unreachable, later) ∧
          (path.lastName?.isSome = true → (Snapshot.draft path).names ≠ path.names →
            Snapshot.Spared path tree later) := by
  refine ⟨plain_store path, load_of_saved small, ?_⟩
  intro earlier step rest between cause steps before failed
  have ended : disk.runAll (snapshot.saveSteps path) tree = (.error (step, cause), later) := by
    rw [steps]
    exact runAll_of_failed before failed
  refine ⟨?_, fun named different => ?_⟩
  · simp only [store, ended]
  · obtain ⟨name, last⟩ := Option.isSome_iff_exists.mp named
    exact Snapshot.spared_of_drafted last different (Snapshot.drafted_of_failed ended)

/-! ### A disk that runs full -/

def Disk.full (room : Nat) : Disk where
  run step tree :=
    match step with
    | .write path content =>
        if room < content.length then
          match tree.write path (content.take room) with
          | .ok torn => (.error .missing, torn)
          | .error cause => (.error cause, tree)
        else step.run tree
    | step => step.run tree
  done := by
    intro step tree later ran
    split at ran
    · split at ran
      · split at ran <;> cases ran
      · exact ran
    · exact ran
  left := by
    intro step tree cause later ran
    split at ran
    · split at ran
      · split at ran
        · rename_i torn wrote
          cases ran
          exact .torn (List.take_prefix _ _) wrote
        · cases ran
          exact .nothing _ _
      · exact FileStep.leaves_of_run ran
    · exact FileStep.leaves_of_run ran

namespace Snapshot

def kept : Snapshot := { capacity := 1, entries := ["a"] }

def fresh : Snapshot := { capacity := 2, entries := [] }

def keptAt (name : String) : FileTree := { items := [([name], .file kept.toBytes)] }

def wayBack : FileTree :=
  { items := [(["k.tmp"], .directory), (["k.json"], .file kept.toBytes)] }

/-- The draft was cut short, and the snapshot is still there. -/
theorem store_replaces_full :
    fresh.capacity < capacityLimit ∧
      ((Disk.full 5).store { text := "s.json" }).save fresh (keptAt "s.json") =
        (.error .unreachable,
          { items := (keptAt "s.json").items ++ [(["s.tmp"], .file (fresh.toBytes.take 5))] }) ∧
      load { text := "s.json" }
          { items := (keptAt "s.json").items ++ [(["s.tmp"], .file (fresh.toBytes.take 5))] } =
        .ok (some kept) := by
  have small : fresh.capacity < capacityLimit := by decide
  have replaces := Disk.store_replaces (Disk.full 5) { text := "s.json" } fresh (keptAt "s.json")
    { items := (keptAt "s.json").items ++ [(["s.tmp"], .file (fresh.toBytes.take 5))] } small
  have steps : fresh.saveSteps { text := "s.json" } =
      [.makeDirectories { text := "" }] ++ .write { text := "s.tmp" } fresh.toBytes ::
        [.rename { text := "s.tmp" } { text := "s.json" }] := by decide +kernel
  have tells := replaces.2.2 _ _ _ (keptAt "s.json") .missing steps (by with_unfolding_all rfl)
    (by with_unfolding_all rfl)
  refine ⟨small, tells.1, ?_⟩
  rw [(tells.2 (by decide +kernel) (by decide +kernel)).load (.inr (.inl (by decide +kernel)))]
  decide +kernel

/-- With the extension of a draft, the file is written over in place. A draft that is cut
short has destroyed the snapshot, and so has one that cannot be moved because the path ends
in a slash, where a path that led nowhere then leads to a file. And whatever the extension,
a directory that was made can open a way back up to another file. -/
theorem saves_in_place :
    (load { text := "x.tmp" } (keptAt "x.tmp") = .ok (some kept) ∧
      ((Disk.full 5).store { text := "x.tmp" }).save fresh (keptAt "x.tmp") =
        (.error .unreachable, { items := [(["x.tmp"], .file (fresh.toBytes.take 5))] }) ∧
      load { text := "x.tmp" } { items := [(["x.tmp"], .file (fresh.toBytes.take 5))] } =
        .error .encoding) ∧
    ((Store.file { text := "x.tmp/" }).save fresh (keptAt "x.tmp") =
        (.error .unreachable, { items := [(["x.tmp"], .file fresh.toBytes)] }) ∧
      (keptAt "x.tmp").resolve { text := "x.tmp/" } = .ok ["x.tmp"] ∧
      kept.toBytes ≠ fresh.toBytes) ∧
    (load { text := "x.tmp/" } {} = .ok none ∧
      (Store.file { text := "x.tmp/" }).save fresh {} =
        (.error .unreachable, { items := [(["x.tmp"], .file fresh.toBytes)] }) ∧
      load { text := "x.tmp/" } { items := [(["x.tmp"], .file fresh.toBytes)] } =
        .error .unreachable) ∧
    load { text := "a/../k.json" } wayBack = .ok none ∧
      (Store.file { text := "a/../k.json" }).save fresh wayBack =
        (.error .unreachable, { items := wayBack.items ++ [(["a"], .directory)] }) ∧
      load { text := "a/../k.json" } { items := wayBack.items ++ [(["a"], .directory)] } =
        .ok (some kept) := by
  refine ⟨⟨?_, ?_, ?_⟩, ⟨?_, ?_, ?_⟩, ⟨?_, ?_, ?_⟩, ?_, ?_, ?_⟩
  all_goals first
    | decide +kernel
    | with_unfolding_all rfl

end Snapshot

end FloodMesh
