/-
The collector's file holds one line for each reading that was taken.

A delivery adds its lines behind what the file holds, and from then on the path leads to
that file. One that cannot make the directory or open the file leaves every file as it was.
Only a device that fails while the lines are added can leave a beginning of them, and only
in that file. Written JSON holds no control, so the line breaks of the text are those
between the lines, and each line is read back as the record that it was written from.
-/

import FloodMesh.Proofs.Disk
import FloodMesh.Proofs.FifoSet
import FloodMesh.Proofs.Spelling
import FloodMesh.Uplink

namespace FloodMesh

/-! ### Lines -/

namespace Json

def Unbroken (text : List Char) : Prop := ∀ char ∈ text, 0x20 ≤ char.toNat

instance (text : List Char) : Decidable (Unbroken text) :=
  List.decidableBAll (fun char : Char => 0x20 ≤ char.toNat) text

private theorem Unbroken.append {first second : List Char} (before : Unbroken first)
    (after : Unbroken second) : Unbroken (first ++ second) :=
  List.forall_mem_append.mpr ⟨before, after⟩

private theorem Unbroken.cons {char : Char} {text : List Char} (first : 0x20 ≤ char.toNat)
    (rest : Unbroken text) : Unbroken (char :: text) :=
  List.forall_mem_cons.mpr ⟨first, rest⟩

private theorem unbroken_decimal (value : Nat) : Unbroken (decimal value) := by
  intro char among
  have digit := (isDigit_of_mem_decimal among).1
  have code : '0'.toNat ≤ char.toNat := digit
  exact Nat.le_trans (by decide) code

private theorem unbroken_print (number : Number) : Unbroken number.print := by
  have minus : ∀ value, Unbroken ('-' :: decimal value) :=
    fun value => .cons (by decide) (unbroken_decimal value)
  match number with
  | .whole (.ofNat value) => exact unbroken_decimal value
  | .whole (.negSucc value) => exact minus (value + 1)
  | .scaled negative value exponent =>
      have sign : Unbroken (if negative then ['-'] else []) := by
        cases negative <;> decide
      have power : Unbroken (powerText exponent) := by
        cases exponent with
        | ofNat value => exact unbroken_decimal value
        | negSucc value => exact minus (value + 1)
      have mark : Unbroken ('e' :: powerText exponent) := .cons (by decide) power
      have whole := (sign.append (unbroken_decimal value)).append mark
      cases exponent <;> exact whole

private theorem hexDigit_unbroken :
    ∀ value : Fin 16, 0x20 ≤ (Bytes.hexDigit value).toNat := by decide

private theorem unbroken_escapeChar (char : Char) : Unbroken (escapeChar char) := by
  unfold escapeChar
  repeat' split
  any_goals decide
  · rename_i control
    have high := hexDigit_unbroken ⟨char.toNat / 16, by omega⟩
    have low := hexDigit_unbroken ⟨char.toNat % 16, by omega⟩
    exact .cons (by decide) (.cons (by decide) (.cons (by decide) (.cons (by decide)
      (.cons high (.cons low (List.forall_mem_nil _))))))
  · exact .cons (by omega) (List.forall_mem_nil _)

private theorem unbroken_quoted (text : String) : Unbroken (quoted text) := by
  have inside : Unbroken (text.toList.flatMap escapeChar) := by
    intro char among
    obtain ⟨source, -, escaped⟩ := List.mem_flatMap.mp among
    exact unbroken_escapeChar source char escaped
  exact .cons (by decide) (inside.append (by decide))

mutual

/-- JSON in one line holds no line break, and no other control. -/
theorem unbroken_compact : ∀ value : Json, Unbroken value.compact
  | .null => by decide
  | .bool true => by decide
  | .bool false => by decide
  | .number value => unbroken_print value
  | .string text => unbroken_quoted text
  | .garbled => unbroken_quoted ""
  | .array [] => by decide
  | .array (first :: rest) =>
      .cons (by decide) ((unbroken_compact first).append (unbroken_compactItems rest))
  | .object [] => by decide
  | .object ((name, value) :: rest) =>
      (Unbroken.cons (by decide) ((unbroken_quoted name).append
        (.cons (by decide) (unbroken_compact value)))).append (unbroken_compactMembers rest)

theorem unbroken_compactItems : ∀ items : List Json, Unbroken (compactItems items)
  | [] => by decide
  | item :: rest =>
      .cons (by decide) ((unbroken_compact item).append (unbroken_compactItems rest))

theorem unbroken_compactMembers : ∀ members : List (String × Json),
    Unbroken (compactMembers members)
  | [] => by decide
  | (name, value) :: rest =>
      (Unbroken.cons (by decide) ((unbroken_quoted name).append
        (.cons (by decide) (unbroken_compact value)))).append (unbroken_compactMembers rest)

end

end Json

theorem Address.encode_text (address : Address) :
    Utf8.encode address.text.toList = address.bytes := by
  rw [text, String.toList_ofList]
  exact Utf8.encode_of_ascii fun byte among => (address.ascii byte among).2

theorem Address.ofString?_text (address : Address) : ofString? address.text = some address := by
  rw [ofString?, Utf8.ofString, encode_text, ofBytes?_bytes]

theorem Address.text_of_ofString? {text : String} {address : Address}
    (taken : ofString? text = some address) : address.text = text := by
  have same : Utf8.ofString address.text = Utf8.ofString text :=
    address.encode_text.trans (ofBytes?_eq_some_iff.mp taken)
  have read := Utf8.toString?_ofString address.text
  rw [same, Utf8.toString?_ofString] at read
  exact (Option.some.inj read).symm

theorem Address.text_injective : Function.Injective text := by
  intro first second same
  have read := first.ofString?_text
  rw [same, ofString?_text] at read
  exact (Option.some.inj read).symm

/-- The line tells the entry: it has no break in it, and read as JSON it gives the four
members, from which the addresses and the reading are had back. -/
structure Entry.ToldBy (entry : Entry) (line : List Char) : Prop where
  unbroken : ∀ char ∈ line, 0x20 ≤ char.toNat
  reads : Json.ofBytes? (Utf8.encode line) = some (.object
    [ ("node", .string entry.src.text), ("controller", .string entry.dest.text),
      ("data", .string entry.data.hex), ("received_at", .ofNat entry.receivedAt) ])
  node : Address.ofString? entry.src.text = some entry.src
  controller : Address.ofString? entry.dest.text = some entry.dest
  digits : entry.data.hex.toList.length = 14
  lower : ∀ digit ∈ entry.data.hex.toList, digit ∈ "0123456789abcdef".toList
  data : Bytes.ofHex? entry.data.hex.toList = some entry.data.bytes

private theorem Entry.toldBy_compact (entry : Entry) : entry.ToldBy entry.record.compact := by
  have text : entry.data.hex.toList = entry.data.bytes.hex := String.toList_ofList
  exact
    { unbroken := Json.unbroken_compact entry.record
      reads := Json.ofBytes?_compact (rfl : entry.record.legible = true)
      node := entry.src.ofString?_text
      controller := entry.dest.ofString?_text
      digits := by rw [text, Bytes.length_hex, entry.data.length_eq]
      lower := fun digit among => Bytes.hex_lower (text ▸ among)
      data := by rw [text, Bytes.ofHex?_hex] }

/-- Cut at its line breaks, the text is the lines, and nothing behind the last break. -/
theorem Uplink.split_lines (entries : List Entry) :
    Pieces.split '\n' (Uplink.lines entries) =
      entries.map (fun entry => entry.record.compact) ++ [[]] := by
  induction entries with
  | nil => rfl
  | cons entry rest ih =>
      have whole : '\n' ∉ entry.record.compact := fun among =>
        absurd (entry.toldBy_compact.unbroken _ among) (by decide)
      have first : Uplink.lines (entry :: rest) =
          entry.record.compact ++ '\n' :: Uplink.lines rest := by
        rw [Uplink.lines, List.flatMap_cons, Uplink.line, List.append_assoc]
        rfl
      rw [first, Pieces.split_append, Pieces.split_of_not_mem whole, ih]
      rfl

/-! ### Deliveries -/

namespace Uplink

structure Delivery where
  batch : List Entry
  outcome : Except Failure Unit

namespace Delivery

def isOpened (delivery : Delivery) : Bool :=
  match delivery.outcome with
  | .ok () => true
  | .error (.appending _ _) => true
  | .error _ => false

def isCut (delivery : Delivery) : Bool :=
  match delivery.outcome with
  | .error (.appending _ _) => true
  | _ => false

def taken (delivery : Delivery) : List Entry :=
  match delivery.outcome with
  | .ok () => delivery.batch
  | .error _ => []

inductive Adds (delivery : Delivery) (added : Bytes) : Prop
  | whole (succeeded : delivery.outcome = .ok ())
      (all : added = Utf8.encode (lines delivery.batch))
  | nothing (unopened : delivery.isOpened = false) (empty : added = [])
  | cut (failed : delivery.isCut = true) (starts : added <+: Utf8.encode (lines delivery.batch))

variable {delivery : Delivery} {added : Bytes}

private theorem isOpened_of_isCut (failed : delivery.isCut = true) : delivery.isOpened = true := by
  unfold isCut at failed
  unfold isOpened
  split at failed
  · rename_i stopped
    rw [stopped]
  · cases failed

private theorem taken_of_unopened (unopened : delivery.isOpened = false) : delivery.taken = [] := by
  unfold isOpened at unopened
  unfold taken
  split at unopened
  · cases unopened
  · cases unopened
  · rename_i failed
    rw [failed]

private theorem Adds.of_unopened (adds : delivery.Adds added)
    (unopened : delivery.isOpened = false) :
    added = [] := by
  cases adds with
  | whole succeeded =>
      rw [isOpened, succeeded] at unopened
      cases unopened
  | nothing _ empty => exact empty
  | cut failed =>
      rw [isOpened_of_isCut failed] at unopened
      cases unopened

/-- Without a cut it is all or nothing. -/
theorem Adds.of_uncut (adds : delivery.Adds added) (uncut : delivery.isCut = false) :
    added = Utf8.encode (lines delivery.taken) := by
  cases adds with
  | whole succeeded all => rw [all, taken, succeeded]
  | nothing unopened empty => rw [empty, taken_of_unopened unopened]; rfl
  | cut failed =>
      rw [failed] at uncut
      cases uncut

end Delivery

private theorem encode_lines_append (first second : List Entry) :
    Utf8.encode (lines (first ++ second)) =
      Utf8.encode (lines first) ++ Utf8.encode (lines second) := by
  rw [lines, List.flatMap_append, Utf8.encode, List.flatMap_append]
  rfl

private theorem flatten_of_unopened {deliveries : List Delivery} {added : List Bytes}
    (adds : List.Forall₂ Delivery.Adds deliveries added)
    (unopened : ∀ delivery ∈ deliveries, delivery.isOpened = false) : added.flatten = [] := by
  induction adds with
  | nil => rfl
  | cons first rest ih =>
      obtain ⟨here, others⟩ := List.forall_mem_cons.mp unopened
      rw [List.flatten_cons, first.of_unopened here, ih others]
      rfl

private theorem flatten_of_uncut {deliveries : List Delivery} {added : List Bytes}
    (adds : List.Forall₂ Delivery.Adds deliveries added)
    (uncut : ∀ delivery ∈ deliveries, delivery.isCut = false) :
    added.flatten = Utf8.encode (lines (deliveries.flatMap Delivery.taken)) := by
  induction adds with
  | nil => rfl
  | cons first rest ih =>
      obtain ⟨here, others⟩ := List.forall_mem_cons.mp uncut
      rw [List.flatten_cons, List.flatMap_cons, first.of_uncut here, ih others,
        encode_lines_append]

/-- What has become of a tree when deliveries to a path came out like this and each has
added so much. -/
structure Collected (path : Path) (tree final : FileTree) (deliveries : List Delivery)
    (added : List Bytes) : Prop where
  adds : List.Forall₂ Delivery.Adds deliveries added
  grows : FileTree.Grows tree final
  elsewhere : ∀ place, final.resolve path ≠ .ok place → final.fileAt place = tree.fileAt place
  behind : ∀ place, final.resolve path = .ok place →
    (final.fileAt place).getD [] = (tree.fileAt place).getD [] ++ added.flatten
  there : ∀ delivery ∈ deliveries, delivery.isOpened = true →
    ∃ place content, final.resolve path = .ok place ∧ final.fileAt place = some content ∧
      final.read path = .ok content
  untouched : (∀ delivery ∈ deliveries, delivery.isOpened = false) →
    ∀ place, final.fileAt place = tree.fileAt place

variable {path : Path} {tree between final : FileTree} {first rest : List Delivery}
  {before more : List Bytes}

private theorem collected_nil (path : Path) (tree : FileTree) : Collected path tree tree [] [] where
  adds := .nil
  grows := FileTree.Grows.refl tree
  elsewhere _ _ := rfl
  behind _ _ := (List.append_nil _).symm
  there _ impossible := by cases impossible
  untouched _ _ := rfl

private theorem Collected.append (earlier : Collected path tree between first before)
    (later : Collected path between final rest more) :
    Collected path tree final (first ++ rest) (before ++ more) where
  adds := List.rel_append earlier.adds later.adds
  grows := earlier.grows.trans later.grows
  elsewhere place apart := by
    have apartBefore : between.resolve path ≠ .ok place :=
      fun leads => apart (later.grows.resolve leads)
    rw [later.elsewhere place apart, earlier.elsewhere place apartBefore]
  behind place leads := by
    rw [later.behind place leads, List.flatten_append, ← List.append_assoc]
    congr 1
    by_cases opened : ∃ delivery ∈ first, delivery.isOpened = true
    · -- The first delivery that opens the file settles where the path leads.
      obtain ⟨delivery, among, opened⟩ := opened
      obtain ⟨settled, content, led, _⟩ := earlier.there delivery among opened
      have stays := later.grows.resolve led
      rw [leads] at stays
      cases stays
      exact earlier.behind place led
    · have unopened : ∀ delivery ∈ first, delivery.isOpened = false :=
        fun delivery among => eq_false_of_ne_true fun is => opened ⟨delivery, among, is⟩
      rw [earlier.untouched unopened, flatten_of_unopened earlier.adds unopened,
        List.append_nil]
  there delivery among opened := by
    obtain early | late := List.mem_append.mp among
    · obtain ⟨place, content, leads, holds, reads⟩ := earlier.there delivery early opened
      have stays := later.grows.resolve leads
      obtain ⟨changed, still⟩ :=
        later.grows.file place content (FileTree.fileAt_eq_some_iff.mp holds)
      have holds := FileTree.fileAt_eq_some_iff.mpr still
      exact ⟨place, changed, stays, holds,
        FileTree.read_of_fileAt stays (FileTree.plain_of_read reads) holds⟩
    · exact later.there delivery late opened
  untouched unopened place := by
    obtain ⟨early, late⟩ := List.forall_mem_append.mp unopened
    rw [later.untouched late, earlier.untouched early]

end Uplink

/-! ### One delivery -/

structure FileTree.Extends (path : Path) (added : Bytes) (tree later : FileTree) : Prop where
  grows : Grows tree later
  plain : path.wantsDirectory = false
  behind : ∃ place, later.resolve path = .ok place ∧
    later.fileAt place = some ((tree.fileAt place).getD [] ++ added) ∧
    ∀ other, other ≠ place → later.fileAt other = tree.fileAt other

namespace FileTree

variable {path : Path} {tree between later : FileTree} {added more : Bytes}

private theorem extends_of_open (opened : tree.openToAppend path = .ok later) :
    Extends path [] tree later := by
  obtain ⟨place, walked, free, plain, rfl⟩ := openToAppend_eq_ok opened
  have changed := grows_put_file ((tree.fileAt place).getD []) free
  refine ⟨changed, plain, place, changed.resolve walked, ?_, fun other => fileAt_put_of_ne⟩
  rw [fileAt_put_self (ne_nil_of_free free), List.append_nil]

private theorem Extends.append (before : Extends path added tree between)
    (appended : between.append path more = .ok later) :
    Extends path (added ++ more) tree later := by
  obtain ⟨place, present, walked, plain, lies, rfl⟩ := append_eq_ok appended
  obtain ⟨settled, leads, holds, others⟩ := before.behind
  rw [walked] at leads
  cases leads
  rw [lies] at holds
  have free := free_of_fileAt lies
  have changed := grows_put_file (present ++ more) free
  refine ⟨before.grows.trans changed, plain, place, changed.resolve walked, ?_, ?_⟩
  · rw [fileAt_put_self (ne_nil_of_free free), Option.some.inj holds, List.append_assoc]
  · intro other different
    rw [fileAt_put_of_ne different, others other different]

private theorem Extends.behind_made {allowed : Path → Prop} (made : Made allowed tree between)
    (extends_ : Extends path added between later) : Extends path added tree later := by
  obtain ⟨grows, plain, place, leads, holds, others⟩ := extends_
  refine ⟨made.grows.trans grows, plain, place, leads, ?_, fun other different => ?_⟩
  · rw [holds, made.fileAt]
  · rw [others other different, made.fileAt]

end FileTree

namespace Uplink

variable {path : Path} {tree later : FileTree} {delivery : Delivery} {added : Bytes}

private theorem collected_of_extends (extended : FileTree.Extends path added tree later)
    (adds : delivery.Adds added) (opened : delivery.isOpened = true) :
    Collected path tree later [delivery] [added] := by
  obtain ⟨grows, plain, place, leads, holds, others⟩ := extended
  refine
    { adds := .cons adds .nil
      grows
      elsewhere := fun other apart => others other ?_
      behind := fun other same => ?_
      there := fun _ _ _ => ⟨place, _, leads, holds, FileTree.read_of_fileAt leads plain holds⟩
      untouched := fun unopened => ?_ }
  · rintro rfl
    exact apart leads
  · rw [leads] at same
    cases same
    rw [holds, List.flatten_singleton]
    rfl
  · rw [unopened delivery (List.mem_singleton_self _)] at opened
    cases opened

private theorem collected_of_made {allowed : Path → Prop} (made : FileTree.Made allowed tree later)
    (unopened : delivery.isOpened = false) : Collected path tree later [delivery] [[]] where
  adds := .cons (.nothing unopened rfl) .nil
  grows := made.grows
  elsewhere place _ := made.fileAt place
  behind place _ := by rw [made.fileAt, List.flatten_singleton, List.append_nil]
  there other among opened := by
    rw [List.mem_singleton.mp among, unopened] at opened
    cases opened
  untouched _ := made.fileAt

end Uplink

namespace Disk

def deliver (disk : Disk) (path : Path) (batch : List Entry) (tree : FileTree) :
    Except Uplink.Failure Unit × FileTree :=
  match disk.runAll (Uplink.steps path batch) tree with
  | (.ok (), later) => (.ok (), later)
  | (.error failed, later) => (.error (Uplink.failureOf path failed), later)

private theorem plain_deliver : plain.deliver = Uplink.deliver := by
  funext path batch tree
  rw [deliver, plain_runAll]
  rfl

variable {disk : Disk} {path : Path} {batch : List Entry} {tree later : FileTree}
  {outcome : Except Uplink.Failure Unit}

/-- The file is opened and the lines are added, where the directories have been made. -/
theorem collected_of_made {allowed : Path → Prop} {between : FileTree}
    {result : Except (FileStep × FileError) Unit} (made : FileTree.Made allowed tree between)
    (ran : disk.runAll [.openToAppend path, .append path (Utf8.encode (Uplink.lines batch))]
      between = (result, later)) :
    ∃ added, Uplink.Collected path tree later
      [{ batch, outcome := result.mapError (Uplink.failureOf path) }] [added] := by
  simp only [runAll] at ran
  split at ran
  · rename_i opened ranOpen
    have extended :=
      (FileTree.extends_of_open (openToAppend_of_run ranOpen)).behind_made made
    split at ran
    · rename_i ranAppend
      cases ran
      exact ⟨_, Uplink.collected_of_extends (extended.append (append_of_run ranAppend))
        (.whole rfl rfl) rfl⟩
    · rename_i ranAppend
      cases ran
      obtain rfl | ⟨part, starts, appended⟩ := append_of_failed ranAppend
      · exact ⟨_, Uplink.collected_of_extends extended (.cut rfl List.nil_prefix) rfl⟩
      · exact ⟨_, Uplink.collected_of_extends (extended.append appended)
          (.cut rfl starts) rfl⟩
  · rename_i ranOpen
    cases ran
    rw [openToAppend_of_failed ranOpen]
    exact ⟨_, Uplink.collected_of_made made rfl⟩

private theorem makeDirectories_of_failed {failed : FileStep × FileError}
    (ran : disk.runAll (path.parent?.toList.map .makeDirectories) tree =
      (.error failed, later)) : ∃ parent, failed.1 = .makeDirectories parent := by
  cases above : path.parent? with
  | none =>
      rw [above] at ran
      cases ran
  | some parent =>
      rw [above] at ran
      simp only [Option.toList_some, List.map_cons, List.map_nil, runAll] at ran
      split at ran
      · cases ran
      · cases ran
        exact ⟨parent, rfl⟩

private theorem collected_deliver (delivered : disk.deliver path batch tree = (outcome, later)) :
    ∃ added, Uplink.Collected path tree later [{ batch, outcome }] [added] := by
  rw [deliver, Uplink.steps, runAll_append] at delivered
  cases above : disk.runAll (path.parent?.toList.map .makeDirectories) tree with
  | mk directories between =>
      have made := made_of_runAll above
      rw [above] at delivered
      cases directories with
      | ok done =>
          dsimp only at delivered
          cases ran : disk.runAll
              [.openToAppend path, .append path (Utf8.encode (Uplink.lines batch))] between with
          | mk result final =>
              have collected := collected_of_made made ran
              rw [ran] at delivered
              cases result <;> cases delivered <;> exact collected
      | error failed =>
          obtain ⟨parent, refused⟩ := makeDirectories_of_failed above
          obtain ⟨step, cause⟩ := failed
          cases refused
          cases delivered
          exact ⟨[], Uplink.collected_of_made made rfl⟩

/-- Tries to deliver batches one after the other, each on a disk that may refuse other steps
than the one before: what came of each, and the tree in the end. -/
def deliveries (path : Path) :
    List (Disk × List Entry) → FileTree → List Uplink.Delivery × FileTree
  | [], tree => ([], tree)
  | (disk, batch) :: rest, tree =>
      let (outcome, later) := disk.deliver path batch tree
      let (others, final) := deliveries path rest later
      ({ batch, outcome } :: others, final)

private theorem collected_deliveries (path : Path) (attempts : List (Disk × List Entry))
    (tree : FileTree) :
    ∃ added, Uplink.Collected path tree (deliveries path attempts tree).2
      (deliveries path attempts tree).1 added := by
  induction attempts generalizing tree with
  | nil => exact ⟨[], Uplink.collected_nil path tree⟩
  | cons attempt rest ih =>
      obtain ⟨disk, batch⟩ := attempt
      obtain ⟨added, first⟩ := @collected_deliver disk path batch tree _ _ rfl
      obtain ⟨more, others⟩ := ih (disk.deliver path batch tree).2
      exact ⟨added :: more, first.append others⟩

private theorem batches_deliveries (path : Path) (attempts : List (Disk × List Entry))
    (tree : FileTree) :
    (deliveries path attempts tree).1.map Uplink.Delivery.batch = attempts.map Prod.snd := by
  induction attempts generalizing tree with
  | nil => rfl
  | cons attempt rest ih => exact congrArg (attempt.2 :: ·) (ih _)

end Disk

/-- Deliveries to one path, tried in any order of batches and on any disks, add to the file
that the path leads to and change nothing else in any file. Each that succeeds adds one line
for each entry of its batch, in order. One that cannot make the directory or open the file
adds nothing, and one that the device fails while the lines are added adds a beginning of
them. -/
theorem Uplink.appends_told_lines (path : Path) (attempts : List (Disk × List Entry))
    (tree : FileTree) :
    let deliveries := (Disk.deliveries path attempts tree).1
    let taken := deliveries.flatMap Delivery.taken
    Disk.plain.deliver = Uplink.deliver ∧
      deliveries.map Delivery.batch = attempts.map Prod.snd ∧
      (∃ added, Collected path tree (Disk.deliveries path attempts tree).2 deliveries added ∧
        ((∀ delivery ∈ deliveries, delivery.isCut = false) →
          added.flatten = Utf8.encode (lines taken))) ∧
      Pieces.split '\n' (lines taken) =
        taken.map (fun entry => entry.record.compact) ++ [[]] ∧
      ∀ entry ∈ taken, entry.ToldBy entry.record.compact := by
  intro deliveries taken
  obtain ⟨added, collected⟩ := Disk.collected_deliveries path attempts tree
  exact ⟨Disk.plain_deliver, Disk.batches_deliveries path attempts tree,
    ⟨added, collected, flatten_of_uncut collected.adds⟩, split_lines taken,
    fun entry _ => entry.toldBy_compact⟩

end FloodMesh
