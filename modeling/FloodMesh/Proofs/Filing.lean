/-
A file that was written is there, with what was written.

Writing changes one place, and this is no directory, so the walk along any path that led
to a place before passes the same directories and leads there again.
-/

import FloodMesh.File.Tree
import FloodMesh.Proofs.Parents
import Mathlib

namespace FloodMesh.FileTree

private theorem lookup_replace_self (place : Place) (item : Item) (items : List (Place × Item)) :
    (replace place item items).lookup place = some item := by
  induction items with
  | nil => simp [replace]
  | cons first rest ih =>
      by_cases same : first.1 = place
      · rw [replace, if_pos same, List.lookup_cons_self]
      · have apart : (place == first.1) = false := beq_eq_false_iff_ne.mpr (Ne.symm same)
        rw [replace, if_neg same, List.lookup_cons, apart]
        exact ih

private theorem lookup_replace_of_ne {place other : Place} (item : Item)
    (different : other ≠ place) (items : List (Place × Item)) :
    (replace place item items).lookup other = items.lookup other := by
  induction items with
  | nil => simp [replace, different]
  | cons first rest ih =>
      by_cases same : first.1 = place
      · have apart : (other == place) = false := beq_eq_false_iff_ne.mpr different
        rw [replace, if_pos same, List.lookup_cons, List.lookup_cons, same, apart]
      · rw [replace, if_neg same, List.lookup_cons, List.lookup_cons, ih]

theorem bind_eq_ok_iff {α β ε : Type} {first : Except ε α} {next : α → Except ε β} {result : β} :
    first >>= next = .ok result ↔ ∃ value, first = .ok value ∧ next value = .ok result := by
  cases first <;> simp [bind, Except.bind]

variable {tree later : FileTree} {place : Place} {item : Item} {path parent : Path}

/-! ### Walks -/

theorem resolve_eq_ok_iff :
    tree.resolve path = .ok place ↔
      ∃ begun, tree.start path = .ok begun ∧
        path.names.foldlM tree.descend begun = .ok place := bind_eq_ok_iff

/-- What is found at the end of a walk; a path that wants a directory finds no file. -/
theorem find_eq_ok_iff :
    tree.find path = .ok item ↔
      ∃ place, tree.resolve path = .ok place ∧ tree.lookup place = some item ∧
        (path.wantsDirectory = true → item = .directory) := by
  unfold find
  rw [bind_eq_ok_iff]
  refine exists_congr fun place => and_congr_right fun _ => ?_
  cases tree.lookup place with
  | none => simp
  | some present =>
      cases present with
      | directory =>
          simp only [Except.ok.injEq, Option.some.injEq]
          exact ⟨fun same => ⟨same, fun _ => same.symm⟩, And.left⟩
      | file content =>
          cases path.wantsDirectory with
          | false => simp
          | true =>
              simp only [if_true, reduceCtorEq, Option.some.injEq, forall_const, false_iff]
              rintro ⟨rfl, isDirectory⟩
              cases isDirectory

/-! ### Changes -/

theorem lookup_put_self (below : place ≠ []) : (tree.put place item).lookup place = some item := by
  rw [lookup, if_neg below]
  exact lookup_replace_self place item tree.items

theorem lookup_put_of_ne {other : Place} (different : other ≠ place) :
    (tree.put place item).lookup other = tree.lookup other := by
  unfold lookup
  split
  · rfl
  · exact lookup_replace_of_ne item different tree.items

theorem lookup_of_descend {current reached : Place} {name : String}
    (walked : tree.descend current name = .ok reached) :
    tree.lookup current = some .directory := by
  simp only [descend] at walked
  split at walked
  · cases walked
  · cases walked
  · assumption

/-- Directories stay, and relative paths start where they did. -/
structure Keeps (tree later : FileTree) : Prop where
  home : later.home = tree.home
  directory : ∀ place, tree.lookup place = some .directory → later.lookup place = some .directory

/-! A walk only passes directories, so it does not see a change elsewhere. -/

theorem Keeps.start (keeps : Keeps tree later) (path : Path) :
    later.start path = tree.start path := by
  rw [FileTree.start, FileTree.start, keeps.home]

theorem Keeps.descend (keeps : Keeps tree later) {current reached : Place} {name : String}
    (walked : tree.descend current name = .ok reached) :
    later.descend current name = .ok reached := by
  have passed := lookup_of_descend walked
  rw [FileTree.descend, keeps.directory current passed]
  rw [FileTree.descend, passed] at walked
  exact walked

private theorem Keeps.walk (keeps : Keeps tree later) (names : List String)
    {current reached : Place}
    (walked : names.foldlM tree.descend current = .ok reached) :
    names.foldlM later.descend current = .ok reached := by
  induction names generalizing current with
  | nil => exact walked
  | cons name rest ih =>
      rw [List.foldlM_cons, bind_eq_ok_iff] at walked ⊢
      obtain ⟨next, first, others⟩ := walked
      exact ⟨next, keeps.descend first, ih others⟩

theorem Keeps.resolve (keeps : Keeps tree later) (walked : tree.resolve path = .ok place) :
    later.resolve path = .ok place := by
  rw [resolve_eq_ok_iff] at walked ⊢
  obtain ⟨begun, begins, rest⟩ := walked
  exact ⟨begun, by rw [keeps.start, begins], keeps.walk path.names rest⟩

theorem keeps_put {item : Item} (free : tree.lookup place ≠ some .directory) :
    Keeps tree (tree.put place item) := by
  refine ⟨rfl, fun other lies => ?_⟩
  have different : other ≠ place := by
    rintro rfl
    exact free lies
  rw [lookup_put_of_ne different, lies]

/-- Where a path asks for a directory, nothing may be written. -/
theorem refused (walk : Except FileError Place) (granted : Place × Option Bytes) :
    (do
      match tree.lookup (← walk) with
      | none => .error .missing
      | some (.file _) => .error .notDirectory
      | some .directory => .error .isDirectory) ≠ Except.ok granted := by
  cases walk with
  | error cause => exact nofun
  | ok reached =>
      simp only [bind, Except.bind]
      split <;> exact nofun

/-- What a path that may be written names, and that it asks for no directory. -/
theorem writable_eq_ok {present : Option Bytes}
    (granted : tree.writable path = .ok (place, present)) :
    tree.resolve path = .ok place ∧ tree.lookup place ≠ some .directory ∧
      path.wantsDirectory = false := by
  unfold writable at granted
  split at granted
  case isTrue => exact absurd granted (refused _ _)
  split at granted
  case isTrue => exact absurd granted (refused _ _)
  rename_i plain
  obtain ⟨reached, walked, granted⟩ := bind_eq_ok_iff.mp granted
  split at granted
  case h_3 => cases granted
  all_goals
    rename_i lies
    cases granted
    exact ⟨walked, by simp [lies], by simpa using plain⟩

theorem find_write {content : Bytes} {written : FileTree}
    (done : tree.write path content = .ok written) :
    written.find path = .ok (.file content) := by
  obtain ⟨⟨place, present⟩, granted, made⟩ := bind_eq_ok_iff.mp done
  cases made
  obtain ⟨walked, free, plain⟩ := writable_eq_ok granted
  have below : place ≠ [] := by
    rintro rfl
    exact free rfl
  refine find_eq_ok_iff.mpr ⟨place, (keeps_put free).resolve walked, lookup_put_self below, ?_⟩
  intro wanted
  exact absurd (plain.symm.trans wanted) (by decide)

/-- A file that is found can be written over. -/
theorem write_of_find {content : Bytes} (found : tree.find path = .ok (.file content))
    (replacement : Bytes) : ∃ written, tree.write path replacement = .ok written := by
  obtain ⟨place, walked, lies, wanted⟩ := find_eq_ok_iff.mp found
  have plain : path.wantsDirectory = false := by
    cases wants : path.wantsDirectory with
    | false => rfl
    | true => cases wanted wants
  have noDot : path.endsInDot = false := (Bool.or_eq_false_iff.mp plain).2
  have granted : tree.writable path = .ok (place, some content) := by
    rw [writable, noDot, plain]
    exact bind_eq_ok_iff.mpr ⟨place, walked, by rw [lies]⟩
  exact ⟨_, bind_eq_ok_iff.mpr ⟨_, granted, rfl⟩⟩

/-! ### Directories -/

theorem isDirectory_eq_true_iff :
    tree.isDirectory path = true ↔ tree.find path = .ok .directory := by
  unfold isDirectory
  split
  · rename_i found
    simp [found]
  · rename_i other
    simpa using other

theorem start_eq_ok_iff {begun : Place} :
    tree.start path = .ok begun ↔
      path.text.toList.contains (Char.ofNat 0) = false ∧ path.isEmpty = false ∧
        path.text.utf8ByteSize ≤ longestPath ∧
        begun = if path.isAbsolute then [] else tree.home := by
  constructor
  · intro walked
    unfold start at walked
    split at walked
    case isTrue => cases walked
    rename_i noNul
    split at walked
    case isTrue => cases walked
    rename_i some_text
    split at walked
    case isTrue => cases walked
    rename_i short
    cases walked
    exact ⟨eq_false_of_ne_true noNul, eq_false_of_ne_true some_text, Nat.le_of_not_lt short, rfl⟩
  · rintro ⟨noNul, some_text, short, rfl⟩
    rw [start, if_neg (ne_true_of_eq_false noNul), if_neg (ne_true_of_eq_false some_text),
      if_neg (Nat.not_lt_of_le short)]

/-- A walk that can begin can begin for the path above. -/
theorem start_of_parent? (above : path.parent? = some parent)
    (some_text : parent.isEmpty = false) {begun : Place} (walked : tree.start path = .ok begun) :
    tree.start parent = .ok begun := by
  obtain ⟨⟨rest, same⟩, _⟩ := Path.text_of_parent? above
  obtain ⟨noNul, _, short, rfl⟩ := start_eq_ok_iff.mp walked
  refine start_eq_ok_iff.mpr ⟨?_, some_text, ?_, ?_⟩
  · rw [← same] at noNul
    simp only [List.contains_eq_mem, List.mem_append, decide_eq_false_iff_not, not_or] at noNul ⊢
    exact noNul.1
  · have text : path.text = parent.text ++ String.ofList rest := by
      rw [← String.toList_inj, String.toList_append, String.toList_ofList, same]
    rw [text, String.utf8ByteSize_append] at short
    omega
  · have absolute : path.isAbsolute = parent.isAbsolute := by
      unfold Path.isAbsolute
      cases first : parent.text.toList with
      | nil =>
          rw [Path.isEmpty, first] at some_text
          cases some_text
      | cons char more => rw [← same, first, List.cons_append, List.head?_cons, List.head?_cons]
    rw [absolute]

private theorem find_root : tree.find { text := "/" } = .ok .directory := by
  rfl

/-- Where a path leads, the path above it leads to a directory. -/
theorem isDirectory_of_resolve (walked : tree.resolve path = .ok place)
    (above : path.parent? = some parent) (some_text : parent.isEmpty = false) :
    tree.isDirectory parent = true := by
  rw [isDirectory_eq_true_iff]
  rcases Path.names_of_parent? above some_text with root | ⟨last, names⟩
  · cases parent
    cases root
    exact find_root
  · obtain ⟨begun, begins, rest⟩ := resolve_eq_ok_iff.mp walked
    rw [names, List.foldlM_append, bind_eq_ok_iff] at rest
    obtain ⟨reached, rest, step⟩ := rest
    rw [List.foldlM_cons, bind_eq_ok_iff] at step
    obtain ⟨_, step, _⟩ := step
    have reaches := resolve_eq_ok_iff.mpr ⟨begun, start_of_parent? above some_text begins, rest⟩
    exact find_eq_ok_iff.mpr ⟨reached, reaches, lookup_of_descend step, fun _ => rfl⟩

theorem isDirectory_of_find (found : tree.find path = .ok item)
    (above : path.parent? = some parent) (some_text : parent.isEmpty = false) :
    tree.isDirectory parent = true := by
  obtain ⟨place, walked, _⟩ := find_eq_ok_iff.mp found
  exact isDirectory_of_resolve walked above some_text

theorem makeDirectory_of_isDirectory (there : tree.isDirectory path = true) :
    tree.makeDirectory path = .error .exists := by
  obtain ⟨place, walked, lies, _⟩ := find_eq_ok_iff.mp (isDirectory_eq_true_iff.mp there)
  simp only [makeDirectory, walked, lies, bind, Except.bind]

private theorem isEmpty_of_failed {allowance : Nat} (enough : 0 < allowance) {cause : FileError}
    {partly : FileTree} (failed : tree.makeDirectories path allowance = (.error cause, partly)) :
    path.isEmpty = false := by
  obtain ⟨spare, rfl⟩ := Nat.exists_eq_add_of_lt enough
  rw [Nat.zero_add, makeDirectories] at failed
  split at failed
  · cases failed
  · rename_i some_text
    exact eq_false_of_ne_true some_text

/-- If a directory cannot be made, it is not there afterwards. -/
theorem isDirectory_of_failed {allowance : Nat} (enough : path.text.toList.length < allowance)
    {cause : FileError} {partly : FileTree}
    (failed : tree.makeDirectories path allowance = (.error cause, partly)) :
    partly.isDirectory path = false := by
  induction allowance generalizing path cause partly with
  | zero => exact absurd enough (Nat.not_lt_zero _)
  | succ allowance ih =>
      have apart : ∀ {between : FileTree} {error : FileError}, error ≠ .exists →
          between.makeDirectory path = .error error → between.isDirectory path = false := by
        intro between error other refused
        cases there : between.isDirectory path with
        | false => rfl
        | true =>
            rw [makeDirectory_of_isDirectory there] at refused
            cases refused
            exact absurd rfl other
      rw [makeDirectories] at failed
      split at failed
      · cases failed
      split at failed
      · cases failed
      · rename_i missing
        split at failed
        · cases failed
          exact apart (by decide) missing
        · rename_i parent above
          have shorter := (Path.text_of_parent? above).2
          split at failed
          · rename_i error unmade recursed
            cases failed
            have some_text := isEmpty_of_failed (by omega) recursed
            have absent := ih (by omega) recursed
            -- what lies in a directory that is not there is not there either
            by_contra there
            rw [Bool.not_eq_false, isDirectory_eq_true_iff] at there
            rw [isDirectory_of_find there above some_text] at absent
            cases absent
          · rename_i made between recursed
            split at failed
            · cases failed
            · split at failed
              · cases failed
              · rename_i absent
                cases failed
                simpa using absent
      · rename_i error other refused
        split at failed
        · cases failed
        · rename_i absent
          cases failed
          simpa using absent

end FloodMesh.FileTree

namespace FloodMesh.FileStep

/-- The last of some steps that all succeed is run on what the others leave. -/
theorem runAll_append_singleton {steps : List FileStep} {last : FileStep} {tree final : FileTree}
    (done : runAll (steps ++ [last]) tree = (.ok (), final)) :
    ∃ between, last.run between = (.ok (), final) := by
  induction steps generalizing tree with
  | nil =>
      rw [List.nil_append, runAll] at done
      split at done
      · rename_i later ran
        cases done
        exact ⟨tree, ran⟩
      · cases done
  | cons step rest ih =>
      rw [List.cons_append, runAll] at done
      split at done
      · exact ih done
      · cases done

private theorem find_of_failed_write {path : Path} {content : Bytes} {tree partly : FileTree}
    {cause : FileError} {item : FileTree.Item}
    (failed : (write path content).run tree = (.error cause, partly))
    (found : partly.find path = .ok item) : item = .directory := by
  simp only [run] at failed
  split at failed
  · cases failed
  · rename_i error refused
    cases failed
    cases item with
    | directory => rfl
    | file present =>
        obtain ⟨written, done⟩ := FileTree.write_of_find found content
        rw [refused] at done
        cases done

/-- If a file cannot be made with the directories above it, nothing but a directory is found
in its place. -/
theorem find_of_unwritten {path : Path} {content : Bytes} {tree partly : FileTree}
    {cause : FileStep × FileError} {item : FileTree.Item}
    (failed : runAll (path.parent?.toList.map makeDirectories ++ [write path content]) tree =
      (.error cause, partly))
    (found : partly.find path = .ok item) : item = .directory := by
  cases above : path.parent? with
  | none =>
      rw [above] at failed
      simp only [Option.toList_none, List.map_nil, List.nil_append, runAll] at failed
      split at failed
      · cases failed
      · rename_i error later ran
        cases failed
        exact find_of_failed_write ran found
  | some parent =>
      rw [above] at failed
      simp only [Option.toList_some, List.map_cons, List.map_nil, List.cons_append,
        List.nil_append, runAll] at failed
      split at failed
      · rename_i between ran
        split at failed
        · cases failed
        · rename_i error later wrote
          cases failed
          exact find_of_failed_write wrote found
      · rename_i error later ran
        cases failed
        simp only [run] at ran
        split at ran
        · cases ran
        · rename_i unmade refused
          cases ran
          have some_text := FileTree.isEmpty_of_failed (Nat.succ_pos _) refused
          have absent := FileTree.isDirectory_of_failed
            (by rw [String.length_toList]; exact Nat.lt_succ_self _) refused
          rw [FileTree.isDirectory_of_find found above some_text] at absent
          cases absent

end FloodMesh.FileStep
