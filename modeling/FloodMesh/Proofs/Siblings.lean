/-
A path with another extension leads beside the path.

Both lead through the same names but the last. Where the last names differ the two never
lead to one place, since the name of the path is no `..` and a `..` leads upwards.
-/

import FloodMesh.Proofs.Growth

namespace FloodMesh

namespace Path

variable {path : Path} {name : List Char}

private theorem lastName?_eq_some (last : path.lastName? = some name) :
    path.splitLast.2 = name ∧ name ≠ [] ∧ name ≠ ['.'] ∧ name ≠ ['.', '.'] := by
  unfold lastName? at last
  dsimp only at last
  split at last
  · cases last
  · rename_i proper
    cases last
    rw [not_or, not_or] at proper
    exact ⟨rfl, proper⟩

theorem isEmpty_of_lastName? (last : path.lastName? = some name) : path.isEmpty = false := by
  obtain ⟨same, some_name, -, -⟩ := lastName?_eq_some last
  cases text : path.text.toList with
  | nil =>
      have joined := path.splitLast_append
      rw [text, List.reverse_nil, trimmed_nil, same] at joined
      exact absurd (List.append_eq_nil_iff.mp joined).1 some_name
  | cons char rest =>
      rw [isEmpty, text]
      rfl

/-- What stands before the last name keeps apart from what is put behind it. -/
theorem namesOf_splitLast_append (path : Path) (fresh : List Char) :
    namesOf (path.splitLast.1.reverse ++ fresh) =
      namesOf path.splitLast.1.reverse ++ namesOf fresh := by
  obtain before | ⟨more, before⟩ := path.splitLast_fst
  · rw [before]
    rfl
  · rw [before, List.reverse_cons, List.append_assoc, List.singleton_append, namesOf_append,
      namesOf_append_slash]

private theorem names_eq_append (path : Path) :
    path.names = namesOf path.splitLast.1.reverse ++ namesOf path.splitLast.2.reverse := by
  have kept := namesOf_trimmed path.text.toList.reverse
  rw [← path.splitLast_append, List.reverse_append, namesOf_splitLast_append,
    List.reverse_reverse] at kept
  exact kept.symm

theorem names_of_lastName? (last : path.lastName? = some name) :
    path.names = namesOf path.splitLast.1.reverse ++ [String.ofList name.reverse] := by
  obtain ⟨rfl, some_name, noDot, -⟩ := lastName?_eq_some last
  have single : namesOf path.splitLast.2.reverse = [String.ofList path.splitLast.2.reverse] := by
    apply namesOf_single
    · rw [List.mem_reverse]
      exact path.slash_not_mem_splitLast
    · simpa using some_name
    · intro dot
      exact noDot (List.reverse_eq_iff.mp dot)
  rw [names_eq_append, single]

private theorem names_parent? {parent : Path} (above : path.parent? = some parent) :
    parent.names <+: namesOf path.splitLast.1.reverse := by
  obtain ⟨-, ⟨-, -, root⟩ | made⟩ := parent?_eq_some above
  · rw [names_eq, root]
    exact List.nil_prefix
  · rw [names_eq, made, namesOf_trimmed]

/-- The names of all above a path are among those before its last. -/
theorem names_under {above : Path} (under : path.Under above) :
    above.names <+: namesOf path.splitLast.1.reverse := by
  induction under with
  | single parent => exact names_parent? parent
  | @tail mid above _ parent ih =>
      rw [names_eq_append mid] at ih
      exact (names_parent? parent).trans ((List.prefix_append _ _).trans ih)

private theorem stem_suffix (name : List Char) : stem name <:+ name := by
  have dropped : name.dropWhile (· ≠ '.') <:+ name := List.dropWhile_suffix _
  unfold stem
  split
  · exact List.suffix_rfl
  · exact List.suffix_rfl
  · rename_i before rest
    rw [rest] at dropped
    exact (List.suffix_cons _ _).trans dropped

/-- The text with another extension: a new last name in the place of the old one. -/
theorem withExtension_text (last : path.lastName? = some name) {extension : String}
    (noSlash : '/' ∉ extension.toList) (some_text : extension.toList ≠ []) :
    ∃ fresh, (path.withExtension extension).text.toList = path.splitLast.1.reverse ++ fresh ∧
      '/' ∉ fresh ∧ fresh ≠ [] ∧ fresh ≠ ['.'] := by
  obtain ⟨same, some_name, -, -⟩ := lastName?_eq_some last
  have noSlashStem : '/' ∉ (stem name).reverse := by
    rw [List.mem_reverse]
    intro among
    exact path.slash_not_mem_splitLast (same ▸ (stem_suffix name).mem among)
  unfold withExtension
  rw [last]
  dsimp only
  split
  · refine ⟨(stem name).reverse ++ ['.'], ?_, ?_, by simp, ?_⟩
    · rw [String.toList_ofList, List.reverse_append, List.append_assoc]
    · simpa using noSlashStem
    · rename_i both
      rw [both.1]
      decide
  · refine ⟨(stem name).reverse ++ '.' :: extension.toList, ?_, ?_, by simp, ?_⟩
    · rw [String.toList_ofList, List.reverse_append, List.append_assoc]
    · rw [List.mem_append, List.mem_cons, not_or, not_or]
      exact ⟨noSlashStem, by decide, noSlash⟩
    · intro dot
      have short := congrArg List.length dot
      have long := List.length_pos_of_ne_nil some_text
      simp only [List.length_append, List.length_cons, List.length_nil] at short
      omega

private theorem names_withExtension (last : path.lastName? = some name) {extension : String}
    (noSlash : '/' ∉ extension.toList) (some_text : extension.toList ≠ []) :
    ∃ fresh, (path.withExtension extension).names =
      namesOf path.splitLast.1.reverse ++ [fresh] := by
  obtain ⟨fresh, text, whole, nonempty, noDot⟩ := withExtension_text last noSlash some_text
  refine ⟨String.ofList fresh, ?_⟩
  rw [names_eq, text, namesOf_splitLast_append, namesOf_single whole nonempty noDot]

private theorem head?_splitLast_append (path : Path) {fresh : List Char} (whole : '/' ∉ fresh)
    (nonempty : fresh ≠ []) (more : List Char) :
    (path.splitLast.1.reverse ++ (fresh ++ more)).head? = some '/' ↔
      path.splitLast.1.reverse.head? = some '/' := by
  cases front : path.splitLast.1.reverse with
  | cons char rest => rfl
  | nil =>
      obtain ⟨first, others, rfl⟩ := List.exists_cons_of_ne_nil nonempty
      have apart : first ≠ '/' := fun same => whole (same ▸ List.mem_cons_self)
      simp [apart]

private theorem isAbsolute_withExtension (last : path.lastName? = some name) {extension : String}
    (noSlash : '/' ∉ extension.toList) (some_text : extension.toList ≠ []) :
    (path.withExtension extension).isAbsolute = path.isAbsolute := by
  obtain ⟨rfl, some_name, -, -⟩ := lastName?_eq_some last
  obtain ⟨fresh, text, whole, nonempty, -⟩ := withExtension_text last noSlash some_text
  obtain ⟨dropped, cut⟩ := trimmed_suffix path.text.toList.reverse
  have own : path.text.toList =
      path.splitLast.1.reverse ++ (path.splitLast.2.reverse ++ dropped.reverse) := by
    rw [← List.append_assoc, ← List.reverse_append, path.splitLast_append,
      ← List.reverse_append, cut, List.reverse_reverse]
  have wholeName : '/' ∉ path.splitLast.2.reverse := by
    rw [List.mem_reverse]
    exact path.slash_not_mem_splitLast
  have nonemptyName : path.splitLast.2.reverse ≠ [] := by simpa using some_name
  have before := path.head?_splitLast_append wholeName nonemptyName dropped.reverse
  have after := path.head?_splitLast_append whole nonempty []
  unfold isAbsolute
  rw [decide_eq_decide, text, own, before]
  rwa [List.append_nil] at after

end Path

namespace FileTree

/-- Where a name leads from a place, if it leads on at all. -/
def follow (place : Place) (name : String) : Place :=
  if name = ".." then place.dropLast else place ++ [name]

variable {tree later : FileTree} {place other : Place} {path : Path}

theorem descend_eq_ok {current reached : Place} {name : String}
    (walked : tree.descend current name = .ok reached) : reached = follow current name := by
  rw [descend, lookup_of_descend walked] at walked
  dsimp only at walked
  unfold follow
  split at walked
  · rename_i up
    cases walked
    exact (if_pos up).symm
  · rename_i down
    split at walked
    · cases walked
    · cases walked
      exact (if_neg down).symm

/-- The tree decides whether a walk gets on, and the names where it leads. -/
theorem walk_eq_ok {names : List String} {begun : Place}
    (walked : names.foldlM tree.descend begun = .ok place) :
    place = names.foldl follow begun := by
  induction names generalizing begun with
  | nil =>
      cases walked
      rfl
  | cons name rest ih =>
      rw [List.foldlM_cons, bind_eq_ok_iff] at walked
      obtain ⟨next, first, others⟩ := walked
      rw [List.foldl_cons, ← descend_eq_ok first]
      exact ih others

theorem resolve_withExtension_ne {name : List Char} {extension : String}
    (last : path.lastName? = some name) (noSlash : '/' ∉ extension.toList)
    (some_text : extension.toList ≠ [])
    (different : (path.withExtension extension).names ≠ path.names)
    (home : later.home = tree.home)
    (besides : tree.resolve (path.withExtension extension) = .ok other)
    (leads : later.resolve path = .ok place) : place ≠ other := by
  obtain ⟨fresh, freshNames⟩ := Path.names_withExtension last noSlash some_text
  have names := Path.names_of_lastName? last
  have proper := (Path.lastName?_eq_some last).2.2.2
  generalize Path.namesOf path.splitLast.1.reverse = front at freshNames names
  obtain ⟨begun, begins, walked⟩ := resolve_eq_ok_iff.mp leads
  obtain ⟨begun', begins', walked'⟩ := resolve_eq_ok_iff.mp besides
  have same : begun' = begun := by
    rw [(start_eq_ok_iff.mp begins).2.2.2, (start_eq_ok_iff.mp begins').2.2.2,
      Path.isAbsolute_withExtension last noSlash some_text, home]
  have down : String.ofList name.reverse ≠ ".." := by
    intro up
    have backwards := congrArg String.toList up
    rw [String.toList_ofList] at backwards
    exact proper (List.reverse_eq_iff.mp backwards)
  -- Both last names are followed from one place, the path's downwards.
  rw [walk_eq_ok walked, walk_eq_ok walked', same, names, freshNames, List.foldl_append,
    List.foldl_append, List.foldl_cons, List.foldl_nil, List.foldl_cons, List.foldl_nil, follow,
    if_neg down, follow]
  rw [names, freshNames] at different
  split
  · intro upwards
    have lengths := congrArg List.length upwards
    simp only [List.length_append, List.length_dropLast, List.length_cons,
      List.length_nil] at lengths
    omega
  · intro beside
    exact different (by rw [(List.append_cancel_left beside).symm])

theorem start_ne_missing (some_text : path.isEmpty = false) :
    tree.start path ≠ .error .missing := by
  intro missing
  unfold start at missing
  split at missing
  · cases missing
  split at missing
  · rename_i no_text
    rw [some_text] at no_text
    cases no_text
  split at missing
  · cases missing
  · cases missing

/-- Where there is a way to the path beside, nothing is missing on the way to the path. -/
theorem resolve_ne_missing {name : List Char} {extension : String}
    (last : path.lastName? = some name) (noSlash : '/' ∉ extension.toList)
    (some_text : extension.toList ≠ [])
    (besides : tree.resolve (path.withExtension extension) = .ok other) :
    tree.resolve path ≠ .error .missing := by
  obtain ⟨fresh, freshNames⟩ := Path.names_withExtension last noSlash some_text
  have names := Path.names_of_lastName? last
  generalize Path.namesOf path.splitLast.1.reverse = front at freshNames names
  obtain ⟨begun', begins', walked⟩ := resolve_eq_ok_iff.mp besides
  rw [freshNames, List.foldlM_append, bind_eq_ok_iff] at walked
  obtain ⟨above, walked, step⟩ := walked
  rw [List.foldlM_cons, bind_eq_ok_iff] at step
  obtain ⟨_, step, -⟩ := step
  -- The path beside was looked for in a directory, where the path is looked for too.
  have passed := lookup_of_descend step
  intro missing
  rw [resolve] at missing
  cases begins : tree.start path with
  | error cause =>
      rw [begins] at missing
      cases missing
      exact start_ne_missing (Path.isEmpty_of_lastName? last) begins
  | ok begun =>
      rw [begins] at missing
      have same : begun' = begun := by
        rw [(start_eq_ok_iff.mp begins).2.2.2, (start_eq_ok_iff.mp begins').2.2.2,
          Path.isAbsolute_withExtension last noSlash some_text]
      change path.names.foldlM tree.descend begun = _ at missing
      rw [names, List.foldlM_append, ← same, walked] at missing
      change [String.ofList name.reverse].foldlM tree.descend above = _ at missing
      rw [List.foldlM_cons, descend, passed] at missing
      dsimp only at missing
      split at missing
      · cases missing
      · split at missing
        · cases missing
        · cases missing

end FileTree

end FloodMesh
