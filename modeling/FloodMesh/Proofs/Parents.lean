/-
The path above a path.

Dropping the last name of a path drops exactly one of the names it leads through, and
leaves a beginning of its text. So a walk to the path is a walk to the one above it and
one step more.
-/

import FloodMesh.File.Path
import Mathlib

namespace FloodMesh

namespace Pieces

theorem split_append (separator : Char) (first second : List Char) :
    split separator (first ++ separator :: second) =
      split separator first ++ split separator second := by
  induction first with
  | nil => simp [split]
  | cons char rest ih =>
      by_cases cut : char = separator
      · rw [List.cons_append, split, if_pos cut, ih, split, if_pos cut, List.cons_append]
      · rw [List.cons_append, split, if_neg cut, ih, split, if_neg cut]
        cases pieces : split separator rest with
        | nil => exact absurd pieces (split_ne_nil separator rest)
        | cons piece more => rfl

theorem split_of_not_mem {separator : Char} {text : List Char} (whole : separator ∉ text) :
    split separator text = [text] := by
  induction text with
  | nil => rfl
  | cons char rest ih =>
      rw [List.mem_cons, not_or] at whole
      rw [split, if_neg (Ne.symm whole.1), ih whole.2]

end Pieces

namespace Path

def namesOf (text : List Char) : List String :=
  ((Pieces.split '/' text).filter fun part => part ≠ [] && part ≠ ['.']).map String.ofList

theorem names_eq (path : Path) : path.names = namesOf path.text.toList := rfl

theorem namesOf_append (first second : List Char) :
    namesOf (first ++ '/' :: second) = namesOf first ++ namesOf second := by
  rw [namesOf, Pieces.split_append, List.filter_append, List.map_append]
  rfl

theorem namesOf_append_slash (text : List Char) : namesOf (text ++ ['/']) = namesOf text :=
  (namesOf_append text []).trans (List.append_nil _)

theorem namesOf_single {name : List Char} (whole : '/' ∉ name) (some_name : name ≠ [])
    (noDot : name ≠ ['.']) : namesOf name = [String.ofList name] := by
  simp [namesOf, Pieces.split_of_not_mem whole, some_name, noDot]

/-! ### What is trimmed off -/

theorem trimmed_suffix (backwards : List Char) : trimmed backwards <:+ backwards := by
  fun_induction trimmed backwards with
  | case1 rest ih => exact ih.trans (List.suffix_cons _ _)
  | case2 rest ih => exact ih.trans (List.suffix_cons _ _)
  | case3 backwards => exact List.suffix_rfl

theorem trimmed_nil : trimmed [] = [] := List.suffix_nil.mp (trimmed_suffix [])

private theorem trimmed_ne_dot (backwards : List Char) :
    ∀ rest, trimmed backwards ≠ '.' :: '/' :: rest := by
  fun_induction trimmed backwards with
  | case1 rest ih => exact ih
  | case2 rest ih => exact ih
  | case3 backwards _ noDot => exact noDot

/-- Slashes and dots at the end are no names. -/
theorem namesOf_trimmed (backwards : List Char) :
    namesOf (trimmed backwards).reverse = namesOf backwards.reverse := by
  fun_induction trimmed backwards with
  | case1 rest ih => rw [ih, List.reverse_cons, namesOf_append_slash]
  | case2 rest ih =>
      rw [ih, List.reverse_cons, namesOf_append_slash, List.reverse_cons, List.reverse_cons,
        List.append_assoc]
      exact ((namesOf_append rest.reverse ['.']).trans (List.append_nil _)).symm
  | case3 => rfl

/-! ### The last name -/

variable {path parent : Path}

theorem splitLast_append (path : Path) :
    path.splitLast.2 ++ path.splitLast.1 = trimmed path.text.toList.reverse :=
  List.takeWhile_append_dropWhile

theorem slash_not_mem_splitLast (path : Path) : '/' ∉ path.splitLast.2 := by
  intro within
  exact absurd (List.mem_takeWhile_imp within) (by decide)

theorem splitLast_fst (path : Path) :
    path.splitLast.1 = [] ∨ ∃ more, path.splitLast.1 = '/' :: more := by
  cases before : path.splitLast.1 with
  | nil => exact .inl rfl
  | cons char more =>
      have starts : ((trimmed path.text.toList.reverse).dropWhile (· ≠ '/')).head? = some char := by
        rw [show (trimmed path.text.toList.reverse).dropWhile (· ≠ '/') = char :: more from before]
        rfl
      have stops := List.head?_dropWhile_not (· ≠ '/') (trimmed path.text.toList.reverse)
      rw [starts] at stops
      have slash : char = '/' := by simpa using stops
      exact .inr ⟨more, by rw [slash]⟩

private theorem names_of_splitLast {more : List Char} (before : path.splitLast.1 = '/' :: more)
    (named : path.splitLast.2 ≠ []) :
    path.names = namesOf more.reverse ++ [String.ofList path.splitLast.2.reverse] := by
  have joined := path.splitLast_append
  have noDot : path.splitLast.2 ≠ ['.'] := by
    intro dot
    rw [before, dot] at joined
    exact trimmed_ne_dot _ more joined.symm
  have single : namesOf path.splitLast.2.reverse = [String.ofList path.splitLast.2.reverse] := by
    apply namesOf_single
    · rw [List.mem_reverse]
      exact path.slash_not_mem_splitLast
    · simpa using named
    · intro dot
      exact noDot (List.reverse_eq_iff.mp dot)
  have backwards := namesOf_trimmed path.text.toList.reverse
  rw [← joined, before, List.reverse_append, List.reverse_cons, List.append_assoc,
    List.singleton_append, namesOf_append, single, List.reverse_reverse] at backwards
  exact backwards.symm

/-- What the path above is made of. -/
theorem parent?_eq_some (above : path.parent? = some parent) :
    path.splitLast.2 ≠ [] ∧
      (trimmed path.splitLast.1 = [] ∧ path.isAbsolute = true ∧ parent.text = "/" ∨
        parent.text.toList = (trimmed path.splitLast.1).reverse) := by
  unfold parent? at above
  split at above
  rename_i before name split_eq
  simp only [split_eq]
  split at above
  · cases above
  · rename_i named
    refine ⟨named, ?_⟩
    dsimp only at above
    split at above
    · rename_i root
      cases above
      exact .inl ⟨root.1, root.2, rfl⟩
    · cases above
      exact .inr (String.toList_ofList)

/-- The path above begins as the path does, and is shorter. -/
theorem text_of_parent? (above : path.parent? = some parent) :
    parent.text.toList <+: path.text.toList ∧
      parent.text.toList.length < path.text.toList.length := by
  obtain ⟨named, made⟩ := parent?_eq_some above
  have joined := path.splitLast_append
  have within := trimmed_suffix path.text.toList.reverse
  rw [← joined] at within
  have shorter : path.splitLast.2.length + path.splitLast.1.length ≤ path.text.toList.length := by
    simpa using within.length_le
  have some_name := List.length_pos_of_ne_nil named
  rcases made with ⟨_, absolute, root⟩ | made
  · obtain ⟨rest, starts⟩ : ∃ rest, path.text.toList = '/' :: rest :=
      List.head?_eq_some_iff.mp (of_decide_eq_true absolute)
    have slash : "/".toList = ['/'] := rfl
    rw [root, slash, starts]
    refine ⟨List.prefix_append ['/'] rest, ?_⟩
    rw [starts] at joined
    cases rest with
    | nil =>
        have nothing : trimmed ['/'] = [] := by rw [trimmed, trimmed_nil]
        rw [List.reverse_singleton, nothing] at joined
        exact absurd (List.append_eq_nil_iff.mp joined).1 named
    | cons next more =>
        simp only [List.length_cons, List.length_nil]
        omega
  · have kept := trimmed_suffix path.splitLast.1
    rw [made]
    constructor
    · have reversed := (kept.trans (List.suffix_append path.splitLast.2 _)).trans within
      rw [← List.reverse_prefix, List.reverse_reverse] at reversed
      exact reversed
    · have smaller := kept.length_le
      rw [List.length_reverse]
      omega

/-- It leads through all names but the last, unless it is the root. -/
theorem names_of_parent? (above : path.parent? = some parent) (some_text : parent.isEmpty = false) :
    parent.text = "/" ∨ ∃ last, path.names = parent.names ++ [last] := by
  obtain ⟨named, ⟨_, _, root⟩ | made⟩ := parent?_eq_some above
  · exact .inl root
  · refine .inr ⟨String.ofList path.splitLast.2.reverse, ?_⟩
    rcases path.splitLast_fst with before | ⟨more, before⟩
    · rw [before] at made
      rw [isEmpty, made, trimmed_nil] at some_text
      cases some_text
    · rw [names_of_splitLast before named, names_eq, made, before, namesOf_trimmed,
        List.reverse_cons, namesOf_append_slash]

end Path

end FloodMesh
