/-
The variable that lists the known nodes.

Its text is a list of items between commas, with blanks around them and blank items among
them as one likes. However it is written, exactly one list of items can be read out of it.
Settings that were loaded under this variable list these items, and they give the known
nodes if each item is an address. If not, the first one that is none is what is told.
-/

import FloodMesh.Proofs.Collector
import FloodMesh.Proofs.Defaults
import FloodMesh.Proofs.Parents

namespace FloodMesh

/-! ### Cutting and joining -/

namespace Pieces

private theorem split_join {separator : Char} {pieces : List (List Char)} (filled : pieces ≠ [])
    (whole : ∀ piece ∈ pieces, separator ∉ piece) :
    split separator (join separator pieces) = pieces := by
  induction pieces with
  | nil => exact absurd rfl filled
  | cons piece rest ih =>
      have first := split_of_not_mem (whole piece List.mem_cons_self)
      cases rest with
      | nil => exact first
      | cons second others =>
          rw [join, split_append, first, ih (List.cons_ne_nil _ _) fun other among =>
            whole other (List.mem_cons_of_mem _ among)]
          · rfl
          · exact fun none => absurd none (List.cons_ne_nil _ _)

private theorem not_mem_of_mem_split {separator : Char} {text piece : List Char}
    (among : piece ∈ split separator text) : separator ∉ piece := by
  induction text generalizing piece with
  | nil =>
      rw [List.mem_singleton.mp among]
      exact List.not_mem_nil
  | cons char rest ih =>
      rw [split] at among
      split at among
      · rcases List.mem_cons.mp among with rfl | later
        · exact List.not_mem_nil
        · exact ih later
      · rename_i other
        cases pieces : split separator rest with
        | nil => exact absurd pieces (split_ne_nil separator rest)
        | cons first more =>
            rw [pieces] at among ih
            rcases List.mem_cons.mp among with rfl | later
            · rw [List.mem_cons, not_or]
              exact ⟨fun same => other same.symm, ih List.mem_cons_self⟩
            · exact ih (List.mem_cons_of_mem _ later)

end Pieces

/-! ### Blanks at the ends -/

namespace Blank

def AllBlank (text : List Char) : Prop := ∀ char ∈ text, isBlank char = true

structure Bare (text : List Char) : Prop where
  filled : text ≠ []
  first : ∀ char, text.head? = some char → isBlank char = false
  last : ∀ char, text.getLast? = some char → isBlank char = false

private theorem dropWhile_padded {pad text : List Char} (blank : AllBlank pad)
    (bare : ∀ char, text.head? = some char → isBlank char = false) :
    (pad ++ text).dropWhile isBlank = text := by
  rw [List.dropWhile_append_of_pos blank]
  cases text with
  | nil => rfl
  | cons char rest => exact List.dropWhile_cons_of_neg (by simp [bare char rfl])

private theorem trim_of_allBlank {text : List Char} (blank : AllBlank text) : trim text = [] := by
  have nothing := @dropWhile_padded text [] blank fun _ none => nomatch none
  rw [List.append_nil] at nothing
  rw [trim, nothing]
  rfl

private theorem trim_padded {before text after : List Char} (blankBefore : AllBlank before)
    (bare : Bare text) (blankAfter : AllBlank after) :
    trim (before ++ text ++ after) = text := by
  have front : (before ++ (text ++ after)).dropWhile isBlank = text ++ after := by
    refine dropWhile_padded blankBefore fun char head => bare.first char ?_
    rwa [List.head?_append_of_ne_nil _ bare.filled] at head
  have back : (after.reverse ++ text.reverse).dropWhile isBlank = text.reverse := by
    refine dropWhile_padded (fun char among => blankAfter char (List.mem_reverse.mp among)) ?_
    rw [List.head?_reverse]
    exact bare.last
  rw [trim, List.append_assoc, front, List.reverse_append, back, List.reverse_reverse]

private theorem exists_front (text : List Char) :
    ∃ pad, AllBlank pad ∧ text = pad ++ text.dropWhile isBlank ∧
      ∀ char, (text.dropWhile isBlank).head? = some char → isBlank char = false := by
  refine ⟨text.takeWhile isBlank, fun char among => List.mem_takeWhile_imp among,
    (List.takeWhile_append_dropWhile ..).symm, fun char head => ?_⟩
  have ends := List.head?_dropWhile_not isBlank text
  rw [head] at ends
  exact ends

/-- A text is what trimming leaves of it between blanks. -/
theorem exists_padding (text : List Char) :
    ∃ before after, AllBlank before ∧ AllBlank after ∧ text = before ++ trim text ++ after ∧
      (trim text ≠ [] → Bare (trim text)) := by
  obtain ⟨before, blankBefore, front, first⟩ := exists_front text
  obtain ⟨after, blankAfter, back, last⟩ := exists_front (text.dropWhile isBlank).reverse
  have middle : text.dropWhile isBlank = trim text ++ after.reverse := by
    rw [← List.reverse_reverse (text.dropWhile isBlank), back, List.reverse_append]
    rfl
  refine ⟨before, after.reverse, blankBefore,
    fun char among => blankAfter char (List.mem_reverse.mp among), ?_,
    fun filled => ⟨filled, fun char head => first char ?_, fun char tail => last char ?_⟩⟩
  · rw [List.append_assoc, ← middle]
    exact front
  · rw [middle, List.head?_append_of_ne_nil _ filled]
    exact head
  · rw [trim, List.getLast?_reverse] at tail
    exact tail

end Blank

/-! ### Ways to write a list -/

namespace KnownList

structure IsItem (item : String) : Prop where
  whole : ',' ∉ item.toList
  bare : Blank.Bare item.toList

/-- The pieces between commas hold these items in this order, each between blanks, and
otherwise only blanks. -/
inductive Holds : List (List Char) → List String → Prop
  | nil : Holds [] []
  | blank {pieces items piece} (blank : Blank.AllBlank piece) (later : Holds pieces items) :
      Holds (piece :: pieces) items
  | item {pieces items before after item} (blankBefore : Blank.AllBlank before)
      (blankAfter : Blank.AllBlank after) (later : Holds pieces items) :
      Holds ((before ++ item.toList ++ after) :: pieces) (item :: items)

def Writes (text : String) (items : List String) : Prop :=
  ∃ pieces, Holds pieces items ∧ text.toList = Pieces.join ',' pieces

private theorem comma_not_mem_of_allBlank {pad : List Char} (blank : Blank.AllBlank pad) :
    ',' ∉ pad :=
  fun among => absurd (blank ',' among) (by decide)

private theorem comma_not_mem_of_holds {pieces : List (List Char)} {items : List String}
    (holds : Holds pieces items) (listable : ∀ item ∈ items, IsItem item) :
    ∀ piece ∈ pieces, ',' ∉ piece := by
  induction holds with
  | nil => exact fun piece none => absurd none List.not_mem_nil
  | blank blank _ ih =>
      exact List.forall_mem_cons.mpr ⟨comma_not_mem_of_allBlank blank, ih listable⟩
  | item blankBefore blankAfter _ ih =>
      obtain ⟨first, others⟩ := List.forall_mem_cons.mp listable
      refine List.forall_mem_cons.mpr ⟨?_, ih others⟩
      simp only [List.mem_append, not_or]
      exact ⟨⟨comma_not_mem_of_allBlank blankBefore, first.whole⟩,
        comma_not_mem_of_allBlank blankAfter⟩

private theorem trimmed_of_holds {pieces : List (List Char)} {items : List String}
    (holds : Holds pieces items) (listable : ∀ item ∈ items, IsItem item) :
    (pieces.map Blank.trim).filter (· ≠ []) = items.map String.toList := by
  induction holds with
  | nil => rfl
  | blank blank _ ih =>
      rw [List.map_cons, Blank.trim_of_allBlank blank, List.filter_cons_of_neg (by simp)]
      exact ih listable
  | item blankBefore blankAfter _ ih =>
      obtain ⟨first, others⟩ := List.forall_mem_cons.mp listable
      rw [List.map_cons, Blank.trim_padded blankBefore first.bare blankAfter,
        List.filter_cons_of_pos (by simpa using first.bare.filled), ih others, List.map_cons]

/-- However a list is written, it is read back. -/
theorem listed_of_writes {text : String} {items : List String} (writes : Writes text items)
    (listable : ∀ item ∈ items, IsItem item) : Environment.listed text = items := by
  obtain ⟨pieces, holds, joined⟩ := writes
  have back : (items.map String.toList).map String.ofList = items := by
    rw [List.map_map]
    exact List.map_id'' (fun item => String.ofList_toList) items
  rw [Environment.listed, joined]
  cases pieces with
  | nil =>
      cases holds
      rfl
  | cons piece rest =>
      rw [Pieces.split_join (List.cons_ne_nil _ _) (comma_not_mem_of_holds holds listable),
        trimmed_of_holds holds listable, back]

private theorem holds_trimmed (pieces : List (List Char)) :
    Holds pieces (((pieces.map Blank.trim).filter (· ≠ [])).map String.ofList) := by
  induction pieces with
  | nil => exact .nil
  | cons piece rest ih =>
      obtain ⟨before, after, blankBefore, blankAfter, padded, _⟩ := Blank.exists_padding piece
      by_cases empty : Blank.trim piece = []
      · rw [List.map_cons, List.filter_cons_of_neg (by simp [empty])]
        refine .blank ?_ ih
        rw [padded, empty, List.append_nil]
        exact List.forall_mem_append.mpr ⟨blankBefore, blankAfter⟩
      · rw [List.map_cons, List.filter_cons_of_pos (by simpa using empty), List.map_cons]
        generalize same : Blank.trim piece = core at padded
        have written : piece = before ++ (String.ofList core).toList ++ after := by
          rwa [String.toList_ofList]
        rw [written]
        exact .item blankBefore blankAfter ih

/-- Every text is a way to write the list that is read out of it. -/
theorem writes_listed (text : String) : Writes text (Environment.listed text) :=
  ⟨Pieces.split ',' text.toList, holds_trimmed _, (Pieces.join_split ',' text.toList).symm⟩

private theorem isItem_of_listed {text item : String} (among : item ∈ Environment.listed text) :
    IsItem item := by
  obtain ⟨trimmed, kept, rfl⟩ := List.mem_map.mp among
  obtain ⟨piece, cut, rfl⟩ := List.mem_map.mp (List.mem_of_mem_filter kept)
  have filled : Blank.trim piece ≠ [] := by simpa using List.of_mem_filter kept
  obtain ⟨before, after, _, _, padded, bare⟩ := Blank.exists_padding piece
  refine ⟨?_, ?_⟩
  · rw [String.toList_ofList]
    intro comma
    refine Pieces.not_mem_of_mem_split cut ?_
    rw [padded]
    exact List.mem_append_left _ (List.mem_append_right _ comma)
  · rw [String.toList_ofList]
    exact bare filled

/-! ### Reading the items as addresses -/

private theorem mapM_eq_ok_iff {α β ε : Type} {read : α → Except ε β} {items : List α}
    {values : List β} :
    items.mapM read = .ok values ↔
      List.Forall₂ (fun item value => read item = .ok value) items values := by
  induction items generalizing values with
  | nil => cases values <;> simp [pure, Except.pure]
  | cons first rest ih =>
      rw [List.mapM_cons]
      cases reads : read first with
      | error error => cases values <;> simp [bind, Except.bind, reads]
      | ok value =>
          cases others : rest.mapM read <;> cases values <;>
            simp [bind, Except.bind, pure, Except.pure, ← ih, reads, others]

/-- Reading stops at the first item that it refuses. -/
theorem mapM_eq_error {α β ε : Type} {read : α → Except ε β} {items : List α} {error : ε}
    (failed : items.mapM read = .error error) :
    ∃ before item after, items = before ++ item :: after ∧
      (∀ earlier ∈ before, ∃ value, read earlier = .ok value) ∧ read item = .error error := by
  induction items with
  | nil => cases failed
  | cons first rest ih =>
      rw [List.mapM_cons] at failed
      cases reads : read first with
      | error cause =>
          rw [reads] at failed
          cases failed
          exact ⟨[], first, rest, rfl, fun _ none => absurd none List.not_mem_nil, reads⟩
      | ok value =>
          cases others : rest.mapM read with
          | ok values =>
              rw [reads, others] at failed
              cases failed
          | error cause =>
              rw [reads, others] at failed
              cases failed
              obtain ⟨before, item, after, split, good, bad⟩ := ih others
              refine ⟨first :: before, item, after, ?_, ?_, bad⟩
              · rw [split, List.cons_append]
              · exact List.forall_mem_cons.mpr ⟨⟨value, reads⟩, good⟩

def IsAddress (item : String) : Prop := ∃ address : Address, address.text = item

private theorem addressIn_eq_ok_iff {field item : String} {address : Address} :
    Config.addressIn field item = .ok address ↔ item = address.text := by
  unfold Config.addressIn Address.ofString
  constructor
  · intro reads
    cases taken : Address.ofString? item with
    | none =>
        rw [taken] at reads
        cases reads
    | some own =>
        rw [taken] at reads
        cases reads
        exact (Address.text_of_ofString? taken).symm
  · rintro rfl
    rw [Address.ofString?_text]

private theorem addressIn_eq_error {field item : String} {error : ConfigError}
    (refused : Config.addressIn field item = .error error) :
    ¬ IsAddress item ∧ error = .invalidAddress field item := by
  constructor
  · rintro ⟨address, rfl⟩
    rw [addressIn_eq_ok_iff.mpr rfl] at refused
    cases refused
  · unfold Config.addressIn at refused
    split at refused <;> cases refused
    rfl

private theorem knownNodes_eq_ok_iff {config : Config} {addresses : List Address} :
    config.knownNodes = .ok addresses ↔ config.mesh.knownNodes = addresses.map Address.text := by
  rw [Config.knownNodes, mapM_eq_ok_iff, ← List.forall₂_eq_eq_eq, List.forall₂_map_right_iff]
  simp only [addressIn_eq_ok_iff]

private theorem knownNodes_eq_error {config : Config} {error : ConfigError}
    (failed : config.knownNodes = .error error) :
    ∃ before item after, config.mesh.knownNodes = before ++ item :: after ∧
      (∀ earlier ∈ before, IsAddress earlier) ∧ ¬ IsAddress item ∧
      error = .invalidAddress "mesh.known_nodes" item := by
  obtain ⟨before, item, after, split, good, bad⟩ := mapM_eq_error failed
  refine ⟨before, item, after, split, fun earlier among => ?_, addressIn_eq_error bad⟩
  obtain ⟨address, reads⟩ := good earlier among
  exact ⟨address, (addressIn_eq_ok_iff.mp reads).symm⟩

/-- Reading the known nodes succeeds if all that is listed are addresses. -/
theorem exists_knownNodes_iff {config : Config} :
    (∃ addresses, config.knownNodes = .ok addresses) ↔
      ∀ item ∈ config.mesh.knownNodes, IsAddress item := by
  constructor
  · rintro ⟨addresses, succeeds⟩ item among
    rw [knownNodes_eq_ok_iff.mp succeeds] at among
    obtain ⟨address, -, named⟩ := List.mem_map.mp among
    exact ⟨address, named⟩
  · intro good
    cases result : config.knownNodes with
    | ok addresses => exact ⟨addresses, rfl⟩
    | error error =>
        obtain ⟨before, item, after, split, -, foreign, -⟩ := knownNodes_eq_error result
        refine absurd (good item ?_) foreign
        rw [split]
        exact List.mem_append_right _ List.mem_cons_self

end KnownList

namespace Environment

variable {environment : Environment} {tree : FileTree} {config : Config}

private theorem knownNodes_of_load {text : String}
    (bound : environment.get? "AGROMESH_MESH__KNOWN_NODES" = some text)
    (loaded : environment.load tree = .ok config) : config.mesh.knownNodes = listed text := by
  unfold load at loaded
  cases stored : environment.stored tree with
  | error cause =>
      rw [stored] at loaded
      cases loaded
  | ok file =>
      rw [stored] at loaded
      cases loaded
      rw [override, bound]
      rfl

/-- A node whose variable lists the known nodes, whatever its file lists. A list of
addresses that have no comma in them and no blank at an end is taken as it is, in order
and with repetitions, however it is written in the variable. Any text writes exactly one
list of items. If all items are addresses, these are the known nodes, and if not, the
first one that is none is named. -/
theorem known_nodes_by_variable {text : String}
    (bound : environment.get? "AGROMESH_MESH__KNOWN_NODES" = some text)
    (loaded : environment.load tree = .ok config) :
    (∀ addresses : List Address, (∀ address ∈ addresses, KnownList.IsItem address.text) →
        KnownList.Writes text (addresses.map Address.text) →
        config.knownNodes = .ok addresses) ∧
      ∃ items,
        (∀ others, ((∀ item ∈ others, KnownList.IsItem item) ∧ KnownList.Writes text others) ↔
          others = items) ∧
        ((∃ addresses, config.knownNodes = .ok addresses) ↔
          ∀ item ∈ items, KnownList.IsAddress item) ∧
        (∀ addresses, config.knownNodes = .ok addresses →
          items = addresses.map Address.text) ∧
        ∀ error, config.knownNodes = .error error →
          ∃ before item after, items = before ++ item :: after ∧
            (∀ earlier ∈ before, KnownList.IsAddress earlier) ∧ ¬ KnownList.IsAddress item ∧
            error = .invalidAddress "mesh.known_nodes" item := by
  have listing := knownNodes_of_load bound loaded
  refine ⟨fun addresses listable writes => ?_, listed text, fun others => ⟨?_, ?_⟩, ?_⟩
  · refine KnownList.knownNodes_eq_ok_iff.mpr (listing.trans ?_)
    exact KnownList.listed_of_writes writes (List.forall_mem_map.mpr listable)
  · rintro ⟨listable, writes⟩
    exact (KnownList.listed_of_writes writes listable).symm
  · rintro rfl
    exact ⟨fun item among => KnownList.isItem_of_listed among, KnownList.writes_listed text⟩
  · rw [← listing]
    exact ⟨KnownList.exists_knownNodes_iff,
      fun addresses => KnownList.knownNodes_eq_ok_iff.mp,
      fun error => KnownList.knownNodes_eq_error⟩

def gappedAddress : Address :=
  { bytes := [97, 32, 98, 32, 99, 100]
    length_eq := rfl
    ascii := by decide +kernel }

def listedTwice : Environment :=
  { bindings := [("AGROMESH_CONFIG", "c"), ("AGROMESH_MESH__KNOWN_NODES", " a b cd,,\ta b cd")] }

def listedElsewhere : FileTree where
  items := [(["c"], .file (Utf8.ofString "[mesh]\nknown_nodes = [\"node01\"]\n"))]

theorem known_nodes_by_variable_listedTwice :
    ∃ config, listedTwice.load listedElsewhere = .ok config ∧
      config.knownNodes = .ok [gappedAddress, gappedAddress] := by
  have spelled : gappedAddress.text.toList = ['a', ' ', 'b', ' ', 'c', 'd'] := by decide +kernel
  have listable : KnownList.IsItem gappedAddress.text := by
    refine ⟨?_, ?_⟩ <;> rw [spelled]
    · decide
    · refine ⟨by decide, fun char head => ?_, fun char tail => ?_⟩
      · cases head
        decide
      · cases tail
        decide
  have space : Blank.AllBlank [' '] := List.forall_mem_singleton.mpr (by decide)
  have tab : Blank.AllBlank ['\t'] := List.forall_mem_singleton.mpr (by decide)
  have nothing : Blank.AllBlank [] := fun _ none => absurd none List.not_mem_nil
  have writes : KnownList.Writes " a b cd,,\ta b cd" [gappedAddress.text, gappedAddress.text] :=
    ⟨_, .item space nothing (.blank nothing (.item tab nothing .nil)), by rw [spelled]; decide⟩
  have loads : (listedTwice.load listedElsewhere).isOk = true := by decide +kernel
  cases loaded : listedTwice.load listedElsewhere with
  | error cause =>
      rw [loaded] at loads
      cases loads
  | ok config =>
      have bound : listedTwice.get? "AGROMESH_MESH__KNOWN_NODES" = some " a b cd,,\ta b cd" := by
        decide
      exact ⟨config, rfl, (known_nodes_by_variable bound loaded).1 [gappedAddress, gappedAddress]
        (by simpa using listable) writes⟩

end Environment

end FloodMesh
