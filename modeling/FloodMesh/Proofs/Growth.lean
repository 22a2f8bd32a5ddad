/-
What a change of a tree leaves as it was.

A walk along a path only passes directories. So where directories stay, every walk that
led somewhere leads there again, whatever happens to the files; and where files stay files
as well, a walk that was stopped by a file or a name is stopped again.
-/

import FloodMesh.Proofs.Filing

namespace FloodMesh

namespace FileTree

/-- What the file at a place holds, if one lies there. -/
def fileAt (tree : FileTree) (place : Place) : Option Bytes :=
  match tree.lookup place with
  | some (.file content) => some content
  | _ => none

theorem fileAt_eq_some_iff {tree : FileTree} {place : Place} {content : Bytes} :
    tree.fileAt place = some content ↔ tree.lookup place = some (.file content) := by
  unfold fileAt
  split
  · rename_i present lies
    rw [lies]
    simp
  · rename_i other
    constructor
    · exact nofun
    · intro lies
      exact absurd lies (other content)

/-- Files stay files too, though they may hold something else. -/
structure Grows (tree later : FileTree) : Prop extends Keeps tree later where
  file : ∀ place content, tree.lookup place = some (.file content) →
    ∃ changed, later.lookup place = some (.file changed)

variable {tree between later : FileTree} {place : Place} {path : Path}

private theorem Keeps.refl (tree : FileTree) : Keeps tree tree := ⟨rfl, fun _ => id⟩

private theorem Keeps.trans (first : Keeps tree between) (second : Keeps between later) :
    Keeps tree later :=
  ⟨second.home.trans first.home, fun place => second.directory place ∘ first.directory place⟩

theorem Grows.refl (tree : FileTree) : Grows tree tree :=
  ⟨Keeps.refl tree, fun _ content lies => ⟨content, lies⟩⟩

theorem Grows.trans (first : Grows tree between) (second : Grows between later) :
    Grows tree later := by
  refine ⟨first.toKeeps.trans second.toKeeps, fun place content lies => ?_⟩
  obtain ⟨changed, still⟩ := first.file place content lies
  exact second.file place changed still

/-! ### Walks -/

/-- Only what was missing can be found later. -/
theorem Grows.walk_error (grows : Grows tree later) (names : List String) {current : Place}
    {cause : FileError} (stopped : names.foldlM tree.descend current = .error cause)
    (other : cause ≠ .missing) : names.foldlM later.descend current = .error cause := by
  induction names generalizing current with
  | nil => cases stopped
  | cons name rest ih =>
      rw [List.foldlM_cons] at stopped ⊢
      cases walked : tree.descend current name with
      | ok next =>
          rw [walked] at stopped
          rw [grows.descend walked]
          exact ih stopped
      | error reason =>
          rw [walked] at stopped
          cases stopped
          -- What stopped the walk was a file or the name itself, and both are still there.
          have same : later.descend current name = .error cause := by
            cases lies : tree.lookup current with
            | none =>
                rw [FileTree.descend, lies] at walked
                cases walked
                exact absurd rfl other
            | some item =>
                cases item with
                | directory =>
                    rw [FileTree.descend, lies] at walked
                    rw [FileTree.descend, grows.directory current lies]
                    exact walked
                | file content =>
                    obtain ⟨changed, still⟩ := grows.file current content lies
                    rw [FileTree.descend, lies] at walked
                    rw [FileTree.descend, still]
                    exact walked
          rw [same]
          rfl

theorem Grows.resolve_error (grows : Grows tree later) {cause : FileError}
    (stopped : tree.resolve path = .error cause) (other : cause ≠ .missing) :
    later.resolve path = .error cause := by
  rw [FileTree.resolve, grows.start] at *
  cases begun : tree.start path with
  | error reason =>
      rw [begun] at stopped
      exact stopped
  | ok first =>
      rw [begun] at stopped
      exact grows.walk_error path.names stopped other

/-! ### Single changes -/

theorem free_of_absent (absent : tree.lookup place = none) :
    tree.lookup place ≠ some .directory := by
  rw [absent]
  exact nofun

theorem free_of_fileAt {content : Bytes} (lies : tree.fileAt place = some content) :
    tree.lookup place ≠ some .directory := by
  rw [fileAt_eq_some_iff.mp lies]
  exact nofun

theorem ne_nil_of_free (free : tree.lookup place ≠ some .directory) : place ≠ [] := by
  rintro rfl
  exact free rfl

theorem grows_put_file (content : Bytes) (free : tree.lookup place ≠ some .directory) :
    Grows tree (tree.put place (.file content)) := by
  refine ⟨keeps_put free, fun other present lies => ?_⟩
  by_cases same : other = place
  · rw [same]
    exact ⟨content, lookup_put_self (ne_nil_of_free free)⟩
  · exact ⟨present, by rw [lookup_put_of_ne same, lies]⟩

private theorem grows_put_directory (absent : tree.lookup place = none) :
    Grows tree (tree.put place .directory) := by
  refine ⟨keeps_put (free_of_absent absent), fun other present lies => ⟨present, ?_⟩⟩
  have different : other ≠ place := by
    rintro rfl
    rw [absent] at lies
    cases lies
  rw [lookup_put_of_ne different, lies]

/-- The path to a file reads what the file holds. -/
theorem read_of_fileAt {content : Bytes} (walked : tree.resolve path = .ok place)
    (plain : path.wantsDirectory = false) (lies : tree.fileAt place = some content) :
    tree.read path = .ok content := by
  have item : tree.lookup place = some (.file content) := fileAt_eq_some_iff.mp lies
  have found : tree.find path = .ok (.file content) :=
    find_eq_ok_iff.mpr ⟨place, walked, item, fun wants => by rw [plain] at wants; cases wants⟩
  rw [read, found]
  rfl

/-- Only a path that wants no directory reads a file. -/
theorem plain_of_read {content : Bytes} (reads : tree.read path = .ok content) :
    path.wantsDirectory = false := by
  obtain ⟨item, found, reads⟩ := bind_eq_ok_iff.mp reads
  obtain ⟨place, -, -, fits⟩ := find_eq_ok_iff.mp found
  rw [← Bool.not_eq_true]
  intro wants
  rw [fits wants] at reads
  cases reads

theorem fileAt_put_of_ne {item : Item} {other : Place} (different : other ≠ place) :
    (tree.put place item).fileAt other = tree.fileAt other := by
  rw [fileAt, fileAt, lookup_put_of_ne different]

theorem fileAt_put_self {content : Bytes} (below : place ≠ []) :
    (tree.put place (.file content)).fileAt place = some content := by
  rw [fileAt, lookup_put_self below]

private theorem fileAt_put_directory (absent : tree.lookup place = none) (other : Place) :
    (tree.put place .directory).fileAt other = tree.fileAt other := by
  by_cases same : other = place
  · have below : place ≠ [] := ne_nil_of_free (free_of_absent absent)
    rw [same, fileAt, fileAt, lookup_put_self below, absent]
  · exact fileAt_put_of_ne same

private theorem lookup_filter_of_ne {place other : Place} (different : other ≠ place)
    (items : List (Place × Item)) :
    (items.filter fun item => item.1 ≠ place).lookup other = items.lookup other := by
  induction items with
  | nil => rfl
  | cons first rest ih =>
      by_cases gone : first.1 = place
      · have apart : (other == first.1) = false := beq_eq_false_iff_ne.mpr (gone ▸ different)
        rw [List.filter_cons_of_neg (by simpa using gone), List.lookup_cons, apart]
        exact ih
      · rw [List.filter_cons_of_pos (by simpa using gone), List.lookup_cons, List.lookup_cons, ih]

theorem lookup_remove_of_ne {other : Place} (different : other ≠ place) :
    (tree.remove place).lookup other = tree.lookup other := by
  unfold lookup
  split
  · rfl
  · exact lookup_filter_of_ne different tree.items

theorem keeps_remove (free : tree.lookup place ≠ some .directory) :
    Keeps tree (tree.remove place) := by
  refine ⟨rfl, fun other lies => ?_⟩
  have different : other ≠ place := by
    rintro rfl
    exact free lies
  rw [lookup_remove_of_ne different, lies]

/-! ### Directories that are made -/

theorem makeDirectory_eq_ok (made : tree.makeDirectory path = .ok later) :
    ∃ place, tree.resolve path = .ok place ∧ tree.lookup place = none ∧
      later = tree.put place .directory := by
  obtain ⟨place, walked, made⟩ := bind_eq_ok_iff.mp made
  split at made
  · cases made
  · cases made
  · rename_i absent
    split at made
    · cases made
    · cases made
      exact ⟨place, walked, absent, rfl⟩

end FileTree

/-- The second path stands above the first: dropping last names leads there. -/
def Path.Under : Path → Path → Prop :=
  Relation.TransGen fun path parent => path.parent? = some parent

namespace FileTree

/-- Some directories of the allowed paths were made, one after the other. -/
inductive Made (allowed : Path → Prop) : FileTree → FileTree → Prop
  | nothing (tree : FileTree) : Made allowed tree tree
  | more {tree between later : FileTree} {path : Path} : Made allowed tree between →
      allowed path → between.makeDirectory path = .ok later → Made allowed tree later

variable {tree between later : FileTree} {place : Place} {path : Path} {allowed : Path → Prop}

theorem Made.mono {wider : Path → Prop} (wide : ∀ path, allowed path → wider path)
    (made : Made allowed tree later) : Made wider tree later := by
  induction made with
  | nothing => exact .nothing _
  | more _ among step ih => exact .more ih (wide _ among) step

theorem Made.grows (made : Made allowed tree later) : Grows tree later := by
  induction made with
  | nothing => exact Grows.refl _
  | more _ _ step ih =>
      obtain ⟨place, _, absent, rfl⟩ := makeDirectory_eq_ok step
      exact ih.trans (grows_put_directory absent)

/-- No file comes or goes where directories are made. -/
theorem Made.fileAt (made : Made allowed tree later) (place : Place) :
    later.fileAt place = tree.fileAt place := by
  induction made with
  | nothing => rfl
  | more _ _ step ih =>
      obtain ⟨_, _, absent, rfl⟩ := makeDirectory_eq_ok step
      rw [fileAt_put_directory absent, ih]

theorem made_of_makeDirectories {allowance : Nat} {result : Except FileError FileTree}
    (ran : tree.makeDirectories path allowance = (result, later)) :
    Made (fun above => above = path ∨ path.Under above) tree later ∧
      ∀ made, result = .ok made → made = later := by
  induction allowance generalizing path result later with
  | zero =>
      cases ran
      exact ⟨.nothing _, nofun⟩
  | succ allowance ih =>
      rw [makeDirectories] at ran
      split at ran
      · cases ran
        exact ⟨.nothing _, fun _ same => (Except.ok.inj same).symm⟩
      split at ran
      · rename_i made step
        cases ran
        exact ⟨.more (.nothing _) (.inl rfl) step, fun _ same => (Except.ok.inj same).symm⟩
      · split at ran
        · cases ran
          exact ⟨.nothing _, nofun⟩
        · rename_i parent above
          have higher : ∀ other, other = parent ∨ parent.Under other →
              other = path ∨ path.Under other := by
            rintro other (rfl | under)
            · exact .inr (.single above)
            · exact .inr (.head above under)
          split at ran
          · rename_i recursed
            cases ran
            exact ⟨(ih recursed).1.mono higher, nofun⟩
          · rename_i made partly recursed
            obtain ⟨grown, same⟩ := ih recursed
            obtain rfl := same made rfl
            have grown := grown.mono higher
            split at ran
            · rename_i final step
              cases ran
              exact ⟨.more grown (.inl rfl) step, fun _ same => (Except.ok.inj same).symm⟩
            · split at ran
              · cases ran
                exact ⟨grown, fun _ same => (Except.ok.inj same).symm⟩
              · cases ran
                exact ⟨grown, nofun⟩
      · split at ran
        · cases ran
          exact ⟨.nothing _, fun _ same => (Except.ok.inj same).symm⟩
        · cases ran
          exact ⟨.nothing _, nofun⟩

theorem isEmpty_of_parent? {parent : Path} (above : path.parent? = some parent) :
    path.isEmpty = false := by
  have shorter := (Path.text_of_parent? above).2
  cases text : path.text.toList with
  | nil =>
      rw [text] at shorter
      exact absurd shorter (Nat.not_lt_zero _)
  | cons char rest =>
      rw [Path.isEmpty, text]
      rfl

/-- Where a path leads, all above it are directories. -/
theorem isDirectory_of_under {above : Path} (walked : tree.resolve path = .ok place)
    (under : path.Under above) (some_text : above.isEmpty = false) :
    tree.isDirectory above = true := by
  induction under with
  | single parent => exact isDirectory_of_resolve walked parent some_text
  | tail _ parent ih =>
      have there := isDirectory_eq_true_iff.mp (ih (isEmpty_of_parent? parent))
      exact isDirectory_of_find there parent some_text

/-- Nothing is made above a path that leads somewhere. -/
theorem Made.eq_of_resolve (made : Made path.Under tree later)
    (walked : tree.resolve path = .ok place) : later = tree := by
  induction made with
  | nothing => rfl
  | @more between later above _ under step ih =>
      rw [ih] at step
      obtain ⟨reached, leads, -⟩ := makeDirectory_eq_ok step
      obtain ⟨begun, begins, -⟩ := resolve_eq_ok_iff.mp leads
      -- A directory that is there cannot be made.
      have there := isDirectory_of_under walked under (start_eq_ok_iff.mp begins).2.1
      rw [makeDirectory_of_isDirectory there] at step
      cases step

end FileTree

end FloodMesh
