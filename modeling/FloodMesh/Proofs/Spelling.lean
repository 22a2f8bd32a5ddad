/-
Written JSON is read back as the value it was written from.

A value may be spelled with blanks around its parts, so the texts of a value are told by
rules and not by a printer. Both printers follow the rules, and the reader takes any text
that does, whatever comes behind it that cannot belong to a number.
-/

import FloodMesh.Json.Printer
import FloodMesh.Json.Reader
import FloodMesh.Proofs.Characters

namespace FloodMesh.Json

/-! ### Strings -/

private theorem hexValue?_hexDigit : ∀ value : Fin 16,
    hexValue? (some (Bytes.hexDigit value)) = some value.val := by decide

def before (piece : Piece) : Option (List Piece × Symbols) → Option (List Piece × Symbols) :=
  Option.map fun found => (piece :: found.1, found.2)

private theorem pieces_short {letter char : Char} (noCode : letter ≠ 'u')
    (means : shortEscape? letter = some char) (rest : Symbols) :
    pieces (some '\\' :: some letter :: rest) = before (.char char) (pieces rest) := by
  rw [pieces, means]
  · cases pieces rest <;> rfl
  · intros
    exact noCode ‹letter = 'u'›

private theorem pieces_control {code : Nat} (control : code < 0x20) (rest : Symbols) :
    pieces (some '\\' :: some 'u' :: some '0' :: some '0' ::
        some (Bytes.hexDigit (code / 16)) :: some (Bytes.hexDigit (code % 16)) :: rest) =
      before (.char (Char.ofNat code)) (pieces rest) := by
  have zero : hexValue? (some '0') = some 0 := rfl
  have high := hexValue?_hexDigit ⟨code / 16, by omega⟩
  have low := hexValue?_hexDigit ⟨code % 16, by omega⟩
  have whole : ((0 * 16 + 0) * 16 + code / 16) * 16 + code % 16 = code := by omega
  have isChar : Piece.ofCode code = .char (Char.ofNat code) := if_neg (by omega)
  rw [pieces, zero, high, low]
  simp only [Option.bind_eq_bind, Option.bind_some, whole, isChar]
  cases pieces rest <;> rfl

private theorem pieces_plain {char : Char} (noQuote : char ≠ '"') (noBackslash : char ≠ '\\')
    (uncontrolled : ¬ char.toNat < 0x20) (rest : Symbols) :
    pieces (some char :: rest) = before (.char char) (pieces rest) := by
  rw [pieces]
  · rw [if_neg (by simp [noBackslash, uncontrolled])]
    cases pieces rest <;> rfl
  all_goals simp_all

private theorem pieces_escapeChar (char : Char) (rest : Symbols) :
    pieces ((escapeChar char).map some ++ rest) = before (.char char) (pieces rest) := by
  have ofCode : ∀ {code : Nat}, char.toNat = code → Char.ofNat code = char := by
    rintro _ rfl
    exact Char.ofNat_toNat char
  unfold escapeChar
  split_ifs with quote backslash newLine carriage tab back feed control
  · rw [quote]
    exact pieces_short (by decide) rfl rest
  · rw [backslash]
    exact pieces_short (by decide) rfl rest
  · rw [newLine]
    exact pieces_short (by decide) rfl rest
  · rw [carriage]
    exact pieces_short (by decide) rfl rest
  · rw [tab]
    exact pieces_short (by decide) rfl rest
  · rw [← ofCode back]
    exact pieces_short (by decide) rfl rest
  · rw [← ofCode feed]
    exact pieces_short (by decide) rfl rest
  · have read := pieces_control control rest
    rw [ofCode rfl] at read
    exact read
  · exact pieces_plain quote backslash control rest

private theorem pieces_escaped (text : List Char) (rest : Symbols) :
    pieces ((text.flatMap escapeChar).map some ++ some '"' :: rest) =
      some (text.map .char, rest) := by
  induction text with
  | nil => rfl
  | cons char more ih =>
      rw [List.flatMap_cons, List.map_append, List.append_assoc, pieces_escapeChar, ih]
      rfl

private theorem joined_chars (text : List Char) : joined (text.map .char) = some text := by
  induction text with
  | nil => rfl
  | cons char more ih =>
      rw [List.map_cons, joined, ih]
      rfl

private theorem quoted_eq (text : String) :
    quoted text = '"' :: (text.toList.flatMap escapeChar ++ ['"']) := rfl

private theorem string?_escaped (text : String) (rest : Symbols) :
    string? ((text.toList.flatMap escapeChar).map some ++ some '"' :: rest) =
      some (.string text, rest) := by
  rw [string?, pieces_escaped]
  simp only [Option.bind_eq_bind, Option.bind_some, joined_chars, String.ofList_toList]
  rfl

/-! ### Blanks -/

def Blanks (text : List Char) : Prop := ∀ char ∈ text, isBlank char = true

private theorem skipBlanks_append {blanks : List Char} (blank : Blanks blanks) (rest : Symbols) :
    skipBlanks (blanks.map some ++ rest) = skipBlanks rest := by
  induction blanks with
  | nil => rfl
  | cons char more ih =>
      rw [List.map_cons, List.cons_append, skipBlanks, if_pos (blank char List.mem_cons_self)]
      exact ih fun other among => blank other (List.mem_cons_of_mem _ among)

private theorem skipBlanks_skipBlanks (input : Symbols) :
    skipBlanks (skipBlanks input) = skipBlanks input := by
  induction input with
  | nil => rfl
  | cons symbol rest ih =>
      cases symbol with
      | none => rfl
      | some char =>
          by_cases blank : isBlank char = true
          · rw [skipBlanks, if_pos blank]
            exact ih
          · rw [skipBlanks, if_neg blank, skipBlanks, if_neg blank]

private theorem skipBlanks_cons {char : Char} (solid : isBlank char = false) (rest : Symbols) :
    skipBlanks (some char :: rest) = some char :: rest := by
  rw [skipBlanks, if_neg (ne_true_of_eq_false solid)]

private theorem value?_skipBlanks (allowance : Nat) (input : Symbols) :
    value? allowance (skipBlanks input) = value? allowance input := by
  cases allowance with
  | zero => rw [value?, value?]
  | succ spare => rw [value?, value?, skipBlanks_skipBlanks]

private theorem value?_blanks {blanks : List Char} (blank : Blanks blanks) (allowance : Nat)
    (rest : Symbols) : value? allowance (blanks.map some ++ rest) = value? allowance rest := by
  rw [← value?_skipBlanks, skipBlanks_append blank, value?_skipBlanks]

/-! ### Numbers -/

def NoDigit (rest : Symbols) : Prop :=
  ∀ char, rest.head? = some (some char) → ¬ ('0' ≤ char ∧ char ≤ '9')

def Ends (rest : Symbols) : Prop :=
  ∀ char, rest.head? = some (some char) →
    ¬ ('0' ≤ char ∧ char ≤ '9') ∧ char ≠ '.' ∧ char ≠ 'e' ∧ char ≠ 'E'

private theorem ends_nil : Ends [] := fun _ first => nomatch first

private theorem ends_cons {char : Char}
    (kind : isBlank char = true ∨ char = ',' ∨ char = ']' ∨ char = '\x7d') (rest : Symbols) :
    Ends (some char :: rest) := by
  rintro _ ⟨⟩
  simp only [isBlank, Bool.or_eq_true, decide_eq_true_eq] at kind
  obtain (((rfl | rfl) | rfl) | rfl) | rfl | rfl | rfl := kind <;> decide

private theorem ends_blanks {blanks : List Char} (blank : Blanks blanks) {char : Char}
    (closes : char = ',' ∨ char = ']' ∨ char = '\x7d') (rest : Symbols) :
    Ends (blanks.map some ++ some char :: rest) := by
  cases blanks with
  | nil => exact ends_cons (.inr closes) rest
  | cons first more => exact ends_cons (.inl (blank first List.mem_cons_self)) _

theorem isDigit_of_mem_decimal {value : Nat} {char : Char} (among : char ∈ decimal value) :
    '0' ≤ char ∧ char ≤ '9' := by
  have digit := Nat.isDigit_of_mem_toDigits (by decide) (by decide) among
  simpa [Char.isDigit, Char.le_def] using digit

private theorem isBlank_of_digit {char : Char} (digit : '0' ≤ char ∧ char ≤ '9') :
    isBlank char = false := by
  rw [Bool.eq_false_iff]
  intro blank
  simp only [isBlank, Bool.or_eq_true, decide_eq_true_eq] at blank
  obtain ((rfl | rfl) | rfl) | rfl := blank
  all_goals exact absurd digit (by decide)

private theorem decimal_cons (value : Nat) :
    ∃ first more, decimal value = first :: more ∧ '0' ≤ first ∧ first ≤ '9' := by
  have written : decimal value ≠ [] := Nat.toDigits_ne_nil
  obtain ⟨first, more, nonempty⟩ := List.exists_cons_of_ne_nil written
  exact ⟨first, more, nonempty, isDigit_of_mem_decimal (nonempty ▸ List.mem_cons_self)⟩

private theorem digitsValue_decimal (value : Nat) : digitsValue (decimal value) = value :=
  Nat.ofDigitChars_ten_toDigits

private theorem digits_append {text : List Char}
    (areDigits : ∀ char ∈ text, '0' ≤ char ∧ char ≤ '9')
    {rest : Symbols} (noDigit : NoDigit rest) : digits (text.map some ++ rest) = (text, rest) := by
  induction text with
  | nil =>
      cases rest with
      | nil => rfl
      | cons symbol rest =>
          cases symbol with
          | none => rfl
          | some char =>
              change digits (some char :: rest) = _
              rw [digits, if_neg (noDigit char rfl)]
  | cons char more ih =>
      rw [List.map_cons, List.cons_append, digits, if_pos (areDigits char List.mem_cons_self),
        ih fun other among => areDigits other (List.mem_cons_of_mem _ among)]

private theorem digits_decimal (value : Nat) {rest : Symbols} (noDigit : NoDigit rest) :
    digits ((decimal value).map some ++ rest) = (decimal value, rest) :=
  digits_append (fun _ => isDigit_of_mem_decimal) noDigit

private theorem number?_decimal (negative : Bool) (value : Nat) {rest : Symbols}
    (noDigit : NoDigit rest) :
    number? negative ((decimal value).map some ++ rest) =
      (fraction? rest).bind fun point => (exponent? point.2).bind fun power =>
        some (.of negative (decimal value) point.1 power.1, power.2) := by
  have unpadded : ¬ ((decimal value).length > 1 ∧ (decimal value).head? = some '0') := by
    rintro ⟨long, leading⟩
    rw [decimal, Numeral.toDigits_of_leading_zero leading] at long
    exact absurd long (by decide)
  rw [number?, digits_decimal value noDigit]
  obtain ⟨first, more, nonempty, -⟩ := decimal_cons value
  rw [nonempty] at unpadded ⊢
  exact if_neg unpadded

private theorem fraction?_of_no_point {rest : Symbols} (noPoint : rest.head? ≠ some (some '.')) :
    fraction? rest = some (none, rest) := by
  unfold fraction?
  split
  · exact absurd rfl noPoint
  · rfl

private theorem exponent?_of_no_mark {rest : Symbols} (noSmall : rest.head? ≠ some (some 'e'))
    (noCapital : rest.head? ≠ some (some 'E')) : exponent? rest = some (none, rest) := by
  unfold exponent?
  split <;> first | exact absurd rfl noSmall | exact absurd rfl noCapital | rfl

private theorem signedDigits?_decimal (negative : Bool) (value : Nat) {rest : Symbols}
    (noDigit : NoDigit rest) :
    signedDigits? negative ((decimal value).map some ++ rest) =
      some (some (if negative then -(value : Int) else value), rest) := by
  rw [signedDigits?, digits_decimal value noDigit]
  obtain ⟨first, more, nonempty, -⟩ := decimal_cons value
  have whole := digitsValue_decimal value
  rw [nonempty] at whole ⊢
  simp only [whole]

def powerText : Int → List Char
  | .ofNat value => decimal value
  | .negSucc value => '-' :: decimal (value + 1)

private theorem exponent?_powerText (exponent : Int) {rest : Symbols} (noDigit : NoDigit rest) :
    exponent? (some 'e' :: ((powerText exponent).map some ++ rest)) =
      some (some exponent, rest) := by
  cases exponent with
  | negSucc value => exact signedDigits?_decimal true (value + 1) noDigit
  | ofNat value =>
      obtain ⟨first, more, nonempty, digit⟩ := decimal_cons value
      have read := signedDigits?_decimal false value noDigit
      rw [powerText, nonempty, List.map_cons, List.cons_append] at *
      rw [exponent?]
      · exact read
      · intro _ same
        cases same
        exact absurd digit (by decide)
      · intro _ same
        cases same
        exact absurd digit (by decide)

/-- A number without its sign. -/
theorem number?_print (number : Number) {rest : Symbols} (ends : Ends rest) :
    ∃ negative text, number.print = (if negative then ['-'] else []) ++ text ∧
      (∃ value more, text = decimal value ++ more) ∧
      number? negative (text.map some ++ rest) = some (number, rest) := by
  have noDigit : NoDigit rest := fun char first => (ends char first).1
  have noPoint : rest.head? ≠ some (some '.') := fun first => (ends _ first).2.1 rfl
  have noSmall : rest.head? ≠ some (some 'e') := fun first => (ends _ first).2.2.1 rfl
  have noCapital : rest.head? ≠ some (some 'E') := fun first => (ends _ first).2.2.2 rfl
  have plain : ∀ negative value, number? negative ((decimal value).map some ++ rest) =
      some (.of negative (decimal value) none none, rest) := by
    intro negative value
    rw [number?_decimal negative value noDigit, fraction?_of_no_point noPoint, Option.bind_some,
      exponent?_of_no_mark noSmall noCapital, Option.bind_some]
  match number with
  | .whole (.ofNat value) =>
      refine ⟨false, decimal value, rfl, ⟨value, [], (List.append_nil _).symm⟩, ?_⟩
      rw [plain, Number.of, digitsValue_decimal]
      rfl
  | .whole (.negSucc value) =>
      refine ⟨true, decimal (value + 1), rfl, ⟨value + 1, [], (List.append_nil _).symm⟩, ?_⟩
      rw [plain, Number.of, digitsValue_decimal]
      rfl
  | .scaled negative value exponent =>
      refine ⟨negative, decimal value ++ 'e' :: powerText exponent, ?_, ⟨value, _, rfl⟩, ?_⟩
      · cases exponent <;> exact List.append_assoc _ _ _
      · have noDigitMark : NoDigit (some 'e' :: ((powerText exponent).map some ++ rest)) := by
          rintro _ same
          cases same
          decide
        rw [List.map_append, List.map_cons, List.append_assoc, List.cons_append,
          number?_decimal negative value noDigitMark, fraction?_of_no_point (by simp),
          Option.bind_some, exponent?_powerText exponent noDigit, Option.bind_some, Number.of]
        · simp [digitsValue_decimal]
        · simp

private theorem value?_print (number : Number) {rest : Symbols} (ends : Ends rest) (spare : Nat) :
    value? (spare + 1) (number.print.map some ++ rest) = some (.number number, rest) := by
  obtain ⟨negative, text, written, ⟨value, more, starts⟩, read⟩ := number?_print number ends
  cases negative with
  | true =>
      rw [written, if_pos rfl, List.singleton_append, List.map_cons, List.cons_append, value?,
        skipBlanks_cons rfl]
      simp only [read]
      rfl
  | false =>
      obtain ⟨first, others, nonempty, digit⟩ := decimal_cons value
      have solid : isBlank first = false := isBlank_of_digit digit
      rw [nonempty, List.cons_append] at starts
      rw [written, if_neg (by decide), List.nil_append] 
      rw [starts, List.map_cons, List.cons_append] at read ⊢
      rw [value?, skipBlanks_cons solid]
      split
      case h_8 =>
        simp only [read]
        rfl
      all_goals
        rename_i same
        obtain rfl := Option.some.inj (List.cons.inj same).1
        exact absurd digit (by decide)

/-! ### Values -/

mutual

inductive Spells : Json → List Char → Prop
  | null : Spells .null (compact .null)
  | bool (value : Bool) : Spells (.bool value) (compact (.bool value))
  | number (value : Number) : Spells (.number value) value.print
  | string (text : String) : Spells (.string text) (quoted text)
  | emptyArray : Spells (.array []) ['[', ']']
  | array {items : List Json} {text : List Char} :
      SpellsItems items text → Spells (.array items) ('[' :: text)
  | emptyObject : Spells (.object []) ['\x7b', '\x7d']
  | object {members : List (String × Json)} {text : List Char} :
      SpellsMembers members text → Spells (.object members) ('\x7b' :: text)

inductive SpellsItems : List Json → List Char → Prop
  | last {item : Json} {text ahead behind : List Char} : Blanks ahead → Spells item text →
      Blanks behind → SpellsItems [item] (ahead ++ text ++ behind ++ [']'])
  | more {item : Json} {rest : List Json} {text others ahead behind : List Char} :
      Blanks ahead → Spells item text → Blanks behind → SpellsItems rest others →
      SpellsItems (item :: rest) (ahead ++ text ++ behind ++ ',' :: others)

inductive SpellsMembers : List (String × Json) → List Char → Prop
  | last (name : String) {value : Json} {text ahead inside behind : List Char} :
      Blanks ahead → Blanks inside → Spells value text → Blanks behind →
      SpellsMembers [(name, value)]
        (ahead ++ quoted name ++ ':' :: inside ++ text ++ behind ++ ['\x7d'])
  | more (name : String) {value : Json} {rest : List (String × Json)}
      {text others ahead inside behind : List Char} :
      Blanks ahead → Blanks inside → Spells value text → Blanks behind →
      SpellsMembers rest others →
      SpellsMembers ((name, value) :: rest)
        (ahead ++ quoted name ++ ':' :: inside ++ text ++ behind ++ ',' :: others)

end

/-- A value does not start with a blank or a closing bracket. -/
theorem Spells.head {value : Json} {text : List Char} (spells : Spells value text) :
    ∃ first more, text = first :: more ∧ isBlank first = false ∧ first ≠ ']' := by
  cases spells with
  | null => exact ⟨_, _, rfl, rfl, by decide⟩
  | bool value => cases value <;> exact ⟨_, _, rfl, rfl, by decide⟩
  | string text => exact ⟨_, _, rfl, rfl, by decide⟩
  | emptyArray => exact ⟨_, _, rfl, rfl, by decide⟩
  | array items => exact ⟨_, _, rfl, rfl, by decide⟩
  | emptyObject => exact ⟨_, _, rfl, rfl, by decide⟩
  | object members => exact ⟨_, _, rfl, rfl, by decide⟩
  | number value =>
      obtain ⟨negative, text, written, ⟨value, more, starts⟩, -⟩ := number?_print value ends_nil
      obtain ⟨first, others, nonempty, digit⟩ := decimal_cons value
      rw [written, starts, nonempty]
      cases negative with
      | true => exact ⟨_, _, rfl, rfl, by decide⟩
      | false =>
          refine ⟨first, others ++ more, rfl, isBlank_of_digit digit, ?_⟩
          rintro rfl
          exact absurd digit (by decide)

private theorem itemsOf?_skipBlanks (allowance : Nat) (input : Symbols) :
    itemsOf? allowance (skipBlanks input) = itemsOf? allowance input := by
  cases allowance with
  | zero => rw [itemsOf?, itemsOf?]
  | succ spare => rw [itemsOf?, itemsOf?, value?_skipBlanks]

private theorem membersOf?_skipBlanks (allowance : Nat) (input : Symbols) :
    membersOf? allowance (skipBlanks input) = membersOf? allowance input := by
  cases allowance with
  | zero => rw [membersOf?, membersOf?]
  | succ spare => rw [membersOf?, membersOf?, name?, name?, skipBlanks_skipBlanks]

private theorem SpellsItems.skipBlanks {items : List Json} {text : List Char}
    (spells : SpellsItems items text) (rest : Symbols) :
    ∃ first more, Json.skipBlanks (text.map some ++ rest) = some first :: more ∧ first ≠ ']' := by
  have start : ∀ {ahead text : List Char} {item : Json} (tail : List Char), Blanks ahead →
      Spells item text → ∃ first more,
        Json.skipBlanks ((ahead ++ (text ++ tail)).map some ++ rest) = some first :: more ∧
          first ≠ ']' := by
    intro ahead text item tail blankAhead item
    obtain ⟨first, more, rfl, solid, opens⟩ := item.head
    rw [List.map_append, List.append_assoc, skipBlanks_append blankAhead, List.cons_append,
      List.map_cons, List.cons_append, skipBlanks_cons solid]
    exact ⟨first, _, rfl, opens⟩
  cases spells with
  | last blankAhead item blankBehind =>
      rw [List.append_assoc, List.append_assoc]
      exact start _ blankAhead item
  | more blankAhead item blankBehind spellsRest =>
      rw [List.append_assoc, List.append_assoc]
      exact start _ blankAhead item

private theorem SpellsMembers.skipBlanks {members : List (String × Json)} {text : List Char}
    (spells : SpellsMembers members text) (rest : Symbols) :
    ∃ more, Json.skipBlanks (text.map some ++ rest) = some '"' :: more := by
  cases spells with
  | last name blankAhead blankInside value blankBehind =>
      simp only [List.append_assoc]
      rw [List.map_append, List.append_assoc, skipBlanks_append blankAhead]
      exact ⟨_, skipBlanks_cons rfl _⟩
  | more name blankAhead blankInside value blankBehind spellsRest =>
      simp only [List.append_assoc]
      rw [List.map_append, List.append_assoc, skipBlanks_append blankAhead]
      exact ⟨_, skipBlanks_cons rfl _⟩

private theorem name?_quoted {ahead : List Char} (blank : Blanks ahead) (name : String)
    (rest : Symbols) :
    name? (ahead.map some ++ ((quoted name).map some ++ some ':' :: rest)) =
      some (some name, rest) := by
  rw [name?, skipBlanks_append blank, quoted_eq, List.map_cons, List.map_append,
    List.cons_append, List.append_assoc, skipBlanks_cons rfl]
  simp only [List.map_cons, List.map_nil, List.singleton_append]
  rw [pieces_escaped]
  simp only [Option.bind_eq_bind, Option.bind_some, skipBlanks_cons (rfl : isBlank ':' = false),
    joined_chars, Option.map_some, String.ofList_toList]
  rfl

/-! A step of the reader costs one unit of its allowance, and the text of a part is shorter
than the text of the whole: so the length of the text is what the allowance has to exceed. -/

mutual

private theorem Spells.read {value : Json} {text : List Char} (spells : Spells value text)
    (allowance : Nat) (enough : text.length < allowance) {rest : Symbols} (ends : Ends rest) :
    value? allowance (text.map some ++ rest) = some (value, rest) := by
  obtain _ | spare := allowance
  · omega
  cases spells with
  | null => rfl
  | bool value => cases value <;> rfl
  | number value => exact value?_print value ends spare
  | string text =>
      rw [quoted_eq, List.map_cons, List.map_append, List.cons_append, List.append_assoc, value?,
        skipBlanks_cons rfl]
      exact string?_escaped text rest
  | emptyArray => rfl
  | @array items text spellsItems =>
      rw [List.length_cons] at enough
      have read := spellsItems.read spare (by omega) rest
      obtain ⟨first, more, skipped, opens⟩ := spellsItems.skipBlanks rest
      -- The reader skips the blanks first, to tell an empty list, and reads on from there.
      rw [← itemsOf?_skipBlanks, skipped] at read
      rw [List.map_cons, List.cons_append, value?, skipBlanks_cons rfl]
      simp only [skipped]
      split
      · rename_i same
        exact absurd (Option.some.inj (List.cons.inj same).1) opens
      · rw [read]
        rfl
  | emptyObject => rfl
  | @object members text spellsMembers =>
      rw [List.length_cons] at enough
      have read := spellsMembers.read spare (by omega) rest
      obtain ⟨more, skipped⟩ := spellsMembers.skipBlanks rest
      rw [← membersOf?_skipBlanks, skipped] at read
      rw [List.map_cons, List.cons_append, value?, skipBlanks_cons rfl]
      simp only [skipped]
      exact read

theorem SpellsItems.read {items : List Json} {text : List Char} (spells : SpellsItems items text)
    (allowance : Nat) (enough : text.length < allowance) (rest : Symbols) :
    itemsOf? allowance (text.map some ++ rest) = some (items, rest) := by
  obtain _ | spare := allowance
  · omega
  cases spells with
  | @last _ text ahead behind blankAhead item blankBehind =>
      simp only [List.length_append, List.length_cons, List.length_nil] at enough
      -- A number has to end where the item does: a blank or the bracket stands there.
      have read := item.read spare (by omega) (ends_blanks blankBehind (.inr (.inl rfl)) rest)
      simp only [List.map_append, List.append_assoc, List.map_cons, List.map_nil,
        List.singleton_append]
      rw [itemsOf?, value?_blanks blankAhead, read]
      simp only [Option.bind_eq_bind, Option.bind_some, skipBlanks_append blankBehind]
      rfl
  | @more _ _ text others ahead behind blankAhead item blankBehind spellsRest =>
      simp only [List.length_append, List.length_cons] at enough
      have readRest := spellsRest.read spare (by omega) rest
      have read := item.read spare (by omega)
        (ends_blanks blankBehind (.inl rfl) (others.map some ++ rest))
      simp only [List.map_append, List.append_assoc, List.map_cons, List.cons_append]
      rw [itemsOf?, value?_blanks blankAhead, read]
      simp only [Option.bind_eq_bind, Option.bind_some, skipBlanks_append blankBehind]
      rw [skipBlanks_cons rfl]
      simp only [readRest]
      rfl

theorem SpellsMembers.read {members : List (String × Json)} {text : List Char}
    (spells : SpellsMembers members text) (allowance : Nat) (enough : text.length < allowance)
    (rest : Symbols) :
    membersOf? allowance (text.map some ++ rest) = some (.object members, rest) := by
  obtain _ | spare := allowance
  · omega
  cases spells with
  | @last name _ text ahead inside behind blankAhead blankInside value blankBehind =>
      simp only [List.length_append, List.length_cons, List.length_nil] at enough
      have read := value.read spare (by omega) (ends_blanks blankBehind (.inr (.inr rfl)) rest)
      simp only [List.map_append, List.append_assoc, List.map_cons, List.map_nil,
        List.cons_append, List.nil_append]
      rw [membersOf?, name?_quoted blankAhead]
      simp only [Option.bind_eq_bind, Option.bind_some, value?_blanks blankInside, read,
        skipBlanks_append blankBehind]
      rfl
  | @more name _ _ text others ahead inside behind blankAhead blankInside value blankBehind
      spellsRest =>
      simp only [List.length_append, List.length_cons] at enough
      have readRest := spellsRest.read spare (by omega) rest
      have read := value.read spare (by omega)
        (ends_blanks blankBehind (.inl rfl) (others.map some ++ rest))
      simp only [List.map_append, List.append_assoc, List.map_cons, List.cons_append]
      rw [membersOf?, name?_quoted blankAhead]
      simp only [Option.bind_eq_bind, Option.bind_some, value?_blanks blankInside, read,
        skipBlanks_append blankBehind]
      rw [skipBlanks_cons rfl]
      simp only [readRest]
      rfl

end

private theorem read?_of_spells {value : Json} {text : List Char} (spells : Spells value text) :
    read? (text.map some) = some value := by
  have read := spells.read (2 * (text.map some).length + 2) (by rw [List.length_map]; omega)
    ends_nil
  rw [List.append_nil] at read
  rw [read?, read]
  rfl

private theorem ofBytes?_of_spells {value : Json} {text : List Char} (spells : Spells value text) :
    ofBytes? (Utf8.encode text) = some value := by
  rw [ofBytes?, Utf8.symbols_encode, read?_of_spells spells]

/-! ### Printed values -/

mutual

def legible : Json → Bool
  | .garbled => false
  | .array items => legibleItems items
  | .object members => legibleMembers members
  | _ => true

def legibleItems : List Json → Bool
  | [] => true
  | item :: rest => legible item && legibleItems rest

def legibleMembers : List (String × Json) → Bool
  | [] => true
  | (_, value) :: rest => legible value && legibleMembers rest

end

private theorem blanks_nil : Blanks [] := List.forall_mem_nil _

private theorem blanks_newLine (depth : Nat) : Blanks (newLine depth) := by
  intro char among
  obtain rfl | among := List.mem_cons.mp among
  · rfl
  · rw [List.eq_of_mem_replicate among]
    rfl

mutual

private theorem spells_compact : ∀ value : Json, value.legible = true → Spells value value.compact
  | .null, _ => .null
  | .bool value, _ => .bool value
  | .number value, _ => .number value
  | .string text, _ => .string text
  | .array [], _ => .emptyArray
  | .array (first :: rest), clear => by
      rw [legible, legibleItems, Bool.and_eq_true] at clear
      exact .array (spellsItems_compact rest clear.2 (spells_compact first clear.1))
  | .object [], _ => .emptyObject
  | .object ((name, value) :: rest), clear => by
      rw [legible, legibleMembers, Bool.and_eq_true] at clear
      exact .object (spellsMembers_compact rest clear.2 name (spells_compact value clear.1))

theorem spellsItems_compact : ∀ rest : List Json, legibleItems rest = true →
    ∀ {item : Json} {text : List Char}, Spells item text →
      SpellsItems (item :: rest) (text ++ compactItems rest)
  | [], _, _, text, item => by
      have last := SpellsItems.last blanks_nil item blanks_nil
      simpa [compactItems] using last
  | next :: rest, clear, _, text, item => by
      rw [legibleItems, Bool.and_eq_true] at clear
      have others := spellsItems_compact rest clear.2 (spells_compact next clear.1)
      have more := SpellsItems.more blanks_nil item blanks_nil others
      simpa [compactItems] using more

theorem spellsMembers_compact : ∀ rest : List (String × Json), legibleMembers rest = true →
    ∀ (name : String) {value : Json} {text : List Char}, Spells value text →
      SpellsMembers ((name, value) :: rest) (quoted name ++ ':' :: text ++ compactMembers rest)
  | [], _, name, _, text, value => by
      have last := SpellsMembers.last name blanks_nil blanks_nil value blanks_nil
      simpa [compactMembers] using last
  | (next, nextValue) :: rest, clear, name, _, text, value => by
      rw [legibleMembers, Bool.and_eq_true] at clear
      have others := spellsMembers_compact rest clear.2 next (spells_compact nextValue clear.1)
      have more := SpellsMembers.more name blanks_nil blanks_nil value blanks_nil others
      simpa [compactMembers] using more

end

private theorem blanks_space : Blanks [' '] := List.forall_mem_singleton.mpr rfl

mutual

private theorem spells_indented : ∀ (depth : Nat) (value : Json), value.legible = true →
    Spells value (value.indented depth)
  | _, .null, _ => .null
  | _, .bool value, _ => .bool value
  | _, .number value, _ => .number value
  | _, .string text, _ => .string text
  | _, .array [], _ => .emptyArray
  | depth, .array (first :: rest), clear => by
      rw [legible, legibleItems, Bool.and_eq_true] at clear
      exact .array (spellsItems_indented depth rest clear.2
        (spells_indented (depth + 1) first clear.1))
  | _, .object [], _ => .emptyObject
  | depth, .object ((name, value) :: rest), clear => by
      rw [legible, legibleMembers, Bool.and_eq_true] at clear
      exact .object (spellsMembers_indented depth rest clear.2 name
        (spells_indented (depth + 1) value clear.1))

theorem spellsItems_indented (depth : Nat) : ∀ rest : List Json, legibleItems rest = true →
    ∀ {item : Json} {text : List Char}, Spells item text →
      SpellsItems (item :: rest) (newLine (depth + 1) ++ text ++ indentedItems depth rest)
  | [], _, _, text, item => by
      have last := SpellsItems.last (blanks_newLine (depth + 1)) item (blanks_newLine depth)
      simpa [indentedItems] using last
  | next :: rest, clear, _, text, item => by
      rw [legibleItems, Bool.and_eq_true] at clear
      have others := spellsItems_indented depth rest clear.2
        (spells_indented (depth + 1) next clear.1)
      have more := SpellsItems.more (blanks_newLine (depth + 1)) item blanks_nil others
      simpa [indentedItems] using more

theorem spellsMembers_indented (depth : Nat) : ∀ rest : List (String × Json),
    legibleMembers rest = true →
    ∀ (name : String) {value : Json} {text : List Char}, Spells value text →
      SpellsMembers ((name, value) :: rest)
        (newLine (depth + 1) ++ quoted name ++ ':' :: ' ' :: text ++ indentedMembers depth rest)
  | [], _, name, _, text, value => by
      have last := SpellsMembers.last name (blanks_newLine (depth + 1)) blanks_space
        value (blanks_newLine depth)
      simpa [indentedMembers] using last
  | (next, nextValue) :: rest, clear, name, _, text, value => by
      rw [legibleMembers, Bool.and_eq_true] at clear
      have others := spellsMembers_indented depth rest clear.2 next
        (spells_indented (depth + 1) nextValue clear.1)
      have more := SpellsMembers.more name (blanks_newLine (depth + 1)) blanks_space
        value blanks_nil others
      simpa [indentedMembers] using more

end

/-- A value that lost no text is read back from either printed form. -/
theorem ofBytes?_compact {value : Json} (clear : value.legible = true) :
    ofBytes? (Utf8.encode value.compact) = some value :=
  ofBytes?_of_spells (spells_compact value clear)

theorem ofBytes?_pretty {value : Json} (clear : value.legible = true) :
    ofBytes? (Utf8.encode value.pretty) = some value :=
  ofBytes?_of_spells (spells_indented 0 value clear)

end FloodMesh.Json
