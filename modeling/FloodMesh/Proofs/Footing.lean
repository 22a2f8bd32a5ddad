/-
Everything lies in a directory.

That is so in an empty tree, and no step changes it: what is made is made where a walk
ended, and a walk ends at a directory or one name below one. So nothing lies below a place
where nothing is, and a path without a way upwards that led nowhere leads nowhere as long as
only directories above it are made.
-/

import FloodMesh.Proofs.Disk
import FloodMesh.Proofs.Siblings

namespace FloodMesh

namespace FileTree

structure Sound (tree : FileTree) : Prop where
  home : tree.lookup tree.home = some .directory
  nested : ∀ place name item, tree.lookup (place ++ [name]) = some item →
    tree.lookup place = some .directory

theorem sound_empty : Sound {} := ⟨rfl, fun place name item lies => by
  have below : place ++ [name] ≠ [] := by simp
  rw [lookup, if_neg below] at lies
  cases lies⟩

variable {tree later : FileTree} {place : Place} {path : Path}

private theorem Sound.above (sound : Sound tree) {item : Item}
    (lies : tree.lookup place = some item) :
    tree.lookup place.dropLast = some .directory := by
  induction place using List.reverseRecOn with
  | nil => rfl
  | append_singleton above name _ =>
      rw [List.dropLast_concat]
      exact sound.nested above name item lies

/-- A walk ends at a directory or one name below one. -/
theorem Sound.walked (sound : Sound tree) {names : List String} {begun : Place}
    (begins : tree.lookup begun = some .directory)
    (walked : names.foldlM tree.descend begun = .ok place) :
    tree.lookup place.dropLast = some .directory := by
  induction names generalizing begun with
  | nil =>
      cases walked
      exact sound.above begins
  | cons name rest ih =>
      rw [List.foldlM_cons, bind_eq_ok_iff] at walked
      obtain ⟨next, first, others⟩ := walked
      cases rest with
      | nil =>
          cases others
          rw [descend_eq_ok first, follow]
          split
          · exact sound.above (sound.above begins)
          · rw [List.dropLast_concat]
            exact begins
      | cons second more =>
          -- From where the walk goes on there is a directory, so it may begin there.
          have onward := others
          rw [List.foldlM_cons, bind_eq_ok_iff] at onward
          obtain ⟨further, step, _⟩ := onward
          exact ih (lookup_of_descend step) others

private theorem Sound.resolved (sound : Sound tree) (leads : tree.resolve path = .ok place) :
    tree.lookup place.dropLast = some .directory := by
  obtain ⟨begun, begins, walked⟩ := resolve_eq_ok_iff.mp leads
  refine sound.walked ?_ walked
  rw [(start_eq_ok_iff.mp begins).2.2.2]
  split
  · rfl
  · exact sound.home

private theorem Sound.put (sound : Sound tree) {item : Item}
    (free : tree.lookup place ≠ some .directory)
    (footing : tree.lookup place.dropLast = some .directory) : Sound (tree.put place item) := by
  have keeps : Keeps tree (tree.put place item) := keeps_put free
  refine ⟨keeps.directory _ sound.home, fun above name present lies => ?_⟩
  by_cases same : above ++ [name] = place
  · rw [← same, List.dropLast_concat] at footing
    exact keeps.directory above footing
  · rw [lookup_put_of_ne same] at lies
    exact keeps.directory above (sound.nested above name present lies)

private theorem lookup_filter_self (place : Place) (items : List (Place × Item)) :
    (items.filter fun item => item.1 ≠ place).lookup place = none := by
  rw [List.lookup_eq_none_iff]
  intro item among
  have apart : item.1 ≠ place := of_decide_eq_true (List.mem_filter.mp among).2
  exact bne_iff_ne.mpr (Ne.symm apart)

private theorem lookup_remove_self (below : place ≠ []) :
    (tree.remove place).lookup place = none := by
  rw [lookup, if_neg below]
  exact lookup_filter_self place tree.items

private theorem Sound.remove (sound : Sound tree) (free : tree.lookup place ≠ some .directory) :
    Sound (tree.remove place) := by
  have keeps := keeps_remove free
  refine ⟨keeps.directory _ sound.home, fun above name present lies => ?_⟩
  by_cases same : above ++ [name] = place
  · rw [same, lookup_remove_self (ne_nil_of_free free)] at lies
    cases lies
  · rw [lookup_remove_of_ne same] at lies
    exact keeps.directory above (sound.nested above name present lies)

/-! ### Steps keep the footing -/

private theorem Sound.write (sound : Sound tree) {content : Bytes}
    (done : tree.write path content = .ok later) : Sound later := by
  obtain ⟨place, leads, free, -, rfl⟩ := write_eq_ok done
  exact sound.put free (sound.resolved leads)

private theorem Sound.openToAppend (sound : Sound tree)
    (done : tree.openToAppend path = .ok later) :
    Sound later := by
  obtain ⟨place, leads, free, -, rfl⟩ := openToAppend_eq_ok done
  exact sound.put free (sound.resolved leads)

private theorem Sound.append (sound : Sound tree) {content : Bytes}
    (done : tree.append path content = .ok later) : Sound later := by
  obtain ⟨place, present, leads, -, lies, rfl⟩ := append_eq_ok done
  exact sound.put (free_of_fileAt lies) (sound.resolved leads)

private theorem Sound.made (sound : Sound tree) {allowed : Path → Prop}
    (made : Made allowed tree later) :
    Sound later := by
  induction made with
  | nothing => exact sound
  | more _ _ step ih =>
      obtain ⟨place, leads, absent, rfl⟩ := makeDirectory_eq_ok step
      exact ih.put (free_of_absent absent) (ih.resolved leads)

private theorem Sound.rename (sound : Sound tree) {source target : Path}
    (done : tree.rename source target = .ok later) : Sound later := by
  obtain ⟨start, goal, content, -, goes, lies, -, moved⟩ := rename_eq_ok done
  obtain ⟨-, rfl⟩ | ⟨apart, noDirectory, rfl⟩ := moved
  · exact sound
  · have free : tree.lookup start ≠ some .directory := by
      rw [lies]
      exact nofun
    have footing := (keeps_remove free).directory _ (sound.resolved goes)
    rw [← lookup_remove_of_ne apart] at noDirectory
    exact (sound.remove free).put noDirectory footing

end FileTree

/-- Whatever a disk does with a step, everything lies in a directory afterwards. -/
theorem Disk.sound_of_run {disk : Disk} {step : FileStep} {tree later : FileTree}
    {result : Except FileError Unit} (sound : tree.Sound)
    (ran : disk.run step tree = (result, later)) : later.Sound := by
  cases result with
  | error cause =>
      cases disk.left ran with
      | nothing => exact sound
      | directories made => exact sound.made made
      | torn _ wrote => exact sound.write wrote
      | short _ added => exact sound.append added
  | ok done =>
      cases step with
      | makeDirectories path => exact sound.made (made_of_run ran)
      | write path content => exact sound.write (write_of_run ran)
      | openToAppend path => exact sound.openToAppend (openToAppend_of_run ran)
      | append path content => exact sound.append (append_of_run ran)
      | rename source target => exact sound.rename (rename_of_run ran)

theorem Disk.sound_of_runAll {disk : Disk} {steps : List FileStep} {tree later : FileTree}
    {result : Except (FileStep × FileError) Unit} (sound : tree.Sound)
    (ran : disk.runAll steps tree = (result, later)) : later.Sound := by
  induction steps generalizing tree with
  | nil =>
      cases ran
      exact sound
  | cons step rest ih =>
      rw [runAll] at ran
      split at ran
      · rename_i between did
        exact ih (sound_of_run sound did) ran
      · rename_i refused
        cases ran
        exact sound_of_run sound refused

/-! ### Paths that only lead downwards -/

/-- No name of the path leads upwards or is longer than a directory can hold. -/
def Path.Straight (path : Path) : Prop :=
  ∀ name ∈ path.names, name ≠ ".." ∧ name.utf8ByteSize ≤ FileTree.longestName

namespace FileTree

variable {tree later : FileTree} {place : Place} {path : Path}

private theorem Sound.nothing_below (sound : Sound tree) (absent : tree.lookup place = none)
    (more : List String) : tree.lookup (place ++ more) = none := by
  induction more using List.reverseRecOn with
  | nil => rwa [List.append_nil]
  | append_singleton before name ih =>
      rw [← List.append_assoc]
      cases lies : tree.lookup (place ++ before ++ [name]) with
      | none => rfl
      | some item =>
          rw [sound.nested _ name item lies] at ih
          cases ih

private theorem descend_straight {name : String} (lies : tree.lookup place = some .directory)
    (down : name ≠ ".." ∧ name.utf8ByteSize ≤ longestName) :
    tree.descend place name = .ok (place ++ [name]) := by
  rw [descend, lies]
  dsimp only
  rw [if_neg down.1, if_neg (Nat.not_lt_of_le down.2)]

/-- A walk downwards that misses something passes no file, and nothing lies at its end. -/
theorem Sound.missed (sound : Sound tree) {names : List String} {begun : Place}
    (straight : ∀ name ∈ names, name ≠ ".." ∧ name.utf8ByteSize ≤ longestName)
    (missing : names.foldlM tree.descend begun = .error .missing) :
    tree.lookup (begun ++ names) = none ∧
      ∀ passed rest, names = passed ++ rest → rest ≠ [] → tree.fileAt (begun ++ passed) = none := by
  induction names generalizing begun with
  | nil => cases missing
  | cons name names ih =>
      rw [List.foldlM_cons] at missing
      cases lies : tree.lookup begun with
      | none =>
          refine ⟨sound.nothing_below lies _, fun passed rest _ _ => ?_⟩
          rw [fileAt, sound.nothing_below lies passed]
      | some item =>
          cases item with
          | file content =>
              rw [descend, lies] at missing
              cases missing
          | directory =>
              rw [descend_straight lies (straight name List.mem_cons_self)] at missing
              obtain ⟨absent, clear⟩ :=
                ih (fun other among => straight other (List.mem_cons_of_mem _ among)) missing
              rw [List.append_assoc] at absent
              refine ⟨absent, fun passed rest cut some_rest => ?_⟩
              cases passed with
              | nil => rw [List.append_nil, fileAt, lies]
              | cons first others =>
                  rw [List.cons_append, List.cons.injEq] at cut
                  obtain ⟨rfl, cut⟩ := cut
                  have before := clear others rest cut some_rest
                  rwa [List.append_assoc] at before

/-- Where no file is on the way downwards and nothing lies at its end, the walk misses
something or gets there. -/
theorem walk_or_missing {names : List String} {begun : Place}
    (straight : ∀ name ∈ names, name ≠ ".." ∧ name.utf8ByteSize ≤ longestName)
    (clear : ∀ passed rest, names = passed ++ rest → rest ≠ [] →
      tree.fileAt (begun ++ passed) = none) :
    names.foldlM tree.descend begun = .error .missing ∨
      names.foldlM tree.descend begun = .ok (begun ++ names) := by
  induction names generalizing begun with
  | nil => exact .inr (by rw [List.append_nil]; rfl)
  | cons name names ih =>
      rw [List.foldlM_cons]
      have start := clear [] (name :: names) rfl (List.cons_ne_nil _ _)
      rw [List.append_nil] at start
      cases lies : tree.lookup begun with
      | none =>
          rw [descend, lies]
          exact .inl rfl
      | some item =>
          cases item with
          | file content =>
              rw [fileAt_eq_some_iff.mpr lies] at start
              cases start
          | directory =>
              rw [descend_straight lies (straight name List.mem_cons_self)]
              have onward := @ih (begun ++ [name])
                (fun other among => straight other (List.mem_cons_of_mem _ among))
                (fun passed rest cut some_rest => by
                  rw [List.append_assoc]
                  exact clear (name :: passed) rest (by rw [cut]; rfl) some_rest)
              rw [List.append_assoc] at onward
              exact onward

private theorem start_under {above : Path} {begun : Place} (under : path.Under above)
    (some_text : above.isEmpty = false) (begins : tree.start path = .ok begun) :
    tree.start above = .ok begun := by
  induction under with
  | single parent => exact start_of_parent? parent some_text begins
  | tail _ parent ih => exact start_of_parent? parent some_text (ih (isEmpty_of_parent? parent))

private theorem foldl_follow_straight {names : List String} (straight : ∀ name ∈ names, name ≠ "..")
    (begun : Place) : names.foldl follow begun = begun ++ names := by
  induction names generalizing begun with
  | nil => exact (List.append_nil _).symm
  | cons name rest ih =>
      rw [List.foldl_cons, follow, if_neg (straight name List.mem_cons_self),
        ih fun other among => straight other (List.mem_cons_of_mem _ among), List.append_assoc]
      rfl

/-- What is made above a path does not lie where the path leads downwards. -/
theorem Made.lookup_straight {name : List Char} (made : Made path.Under tree later)
    (last : path.lastName? = some name) (straight : path.Straight) {begun : Place}
    (begins : tree.start path = .ok begun) :
    later.lookup (begun ++ path.names) = tree.lookup (begun ++ path.names) := by
  induction made with
  | nothing => rfl
  | @more between later above before under step ih =>
      obtain ⟨place, leads, absent, rfl⟩ := makeDirectory_eq_ok step
      obtain ⟨begun', begins', walked⟩ := resolve_eq_ok_iff.mp leads
      rw [before.grows.start] at begins'
      have same := start_under under (start_eq_ok_iff.mp begins').2.1 begins
      rw [begins'] at same
      cases same
      have front := Path.names_under under
      have names := Path.names_of_lastName? last
      have down : ∀ name ∈ above.names, name ≠ ".." := fun other among =>
        (straight other (names ▸ List.mem_append_left _ (front.subset among))).1
      -- What was made has fewer names behind the start of the walk.
      have shorter : begun ++ path.names ≠ place := by
        rw [walk_eq_ok walked, foldl_follow_straight down, names]
        intro same
        have lengths := congrArg List.length same
        have bound := front.length_le
        simp only [List.length_append, List.length_cons, List.length_nil] at lengths
        omega
      rw [lookup_put_of_ne shorter, ih]

theorem find_missing_of_resolve (missing : tree.resolve path = .error .missing) :
    tree.find path = .error .missing := by
  rw [find, missing]
  rfl

private theorem find_missing_of_lookup (leads : tree.resolve path = .ok place)
    (absent : tree.lookup place = none) : tree.find path = .error .missing := by
  simp only [find, leads, absent, bind, Except.bind]

/-- A path downwards that led nowhere leads nowhere when directories above it were made. -/
theorem Made.find_missing {name : List Char} (made : Made path.Under tree later)
    (sound : Sound tree) (last : path.lastName? = some name) (straight : path.Straight)
    (missing : tree.resolve path = .error .missing) : later.find path = .error .missing := by
  have some_text := Path.isEmpty_of_lastName? last
  cases begins : tree.start path with
  | error cause =>
      rw [resolve, begins] at missing
      cases missing
      exact absurd begins (start_ne_missing some_text)
  | ok begun =>
      have walked : path.names.foldlM tree.descend begun = .error .missing := by
        rw [resolve, begins] at missing
        exact missing
      obtain ⟨absent, clear⟩ := sound.missed straight walked
      have onward : later.resolve path = path.names.foldlM later.descend begun := by
        rw [resolve, made.grows.start, begins]
        rfl
      -- No file has come on the way, so the walk still misses something or gets to its end.
      have still := @walk_or_missing later _ _ straight fun passed rest cut some_rest => by
        rw [made.fileAt]
        exact clear passed rest cut some_rest
      rw [← onward] at still
      obtain lost | leads := still
      · exact find_missing_of_resolve lost
      · refine find_missing_of_lookup leads ?_
        rw [made.lookup_straight last straight begins, absent]

end FileTree

end FloodMesh
