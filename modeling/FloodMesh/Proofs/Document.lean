/-
A printed document is read back as what it says.

Value by value and line by line the reader takes what the printer wrote, whatever comes
on the lines after it. The lines then make the tables they were printed from, because no
table has two settings of one name and no two tables have one name.
-/

import FloodMesh.Proofs.Characters
import FloodMesh.Proofs.Quoting
import FloodMesh.Toml.Reader

namespace FloodMesh.Toml

/-! ### Whole numbers -/

structure WholeNumber (digits : List Char) : Prop where
  ne_nil : digits ≠ []
  decimal : ∀ char ∈ digits, isDecimal char = true
  leading : digits.head? = some '0' → digits = ['0']

private theorem isDecimal_of_isDigit {char : Char} (digit : char.isDigit = true) :
    isDecimal char = true := by
  simpa [isDecimal, Char.isDigit, Char.le_def] using digit

private theorem isDecimal_of_mem_toDigits {number : Nat} {char : Char}
    (written : char ∈ Nat.toDigits 10 number) : isDecimal char = true :=
  isDecimal_of_isDigit (Nat.isDigit_of_mem_toDigits (by decide) (by decide) written)

private theorem wholeNumber_toDigits (number : Nat) : WholeNumber (Nat.toDigits 10 number) where
  ne_nil := Nat.toDigits_ne_nil
  decimal _ written := isDecimal_of_mem_toDigits written
  leading := Numeral.toDigits_of_leading_zero

private theorem valueIn_toDigits (number : Nat) : valueIn 10 (Nat.toDigits 10 number) = number := by
  have digitwise : ∀ char ∈ Nat.toDigits 10 number,
      (Bytes.hexValue? char).getD 0 = char.toNat - '0'.toNat := by
    intro char written
    have decimal := isDecimal_of_mem_toDigits written
    simp only [isDecimal, Bool.and_eq_true, decide_eq_true_eq] at decimal
    rw [Bytes.hexValue?, if_pos decimal]
    rfl
  calc valueIn 10 (Nat.toDigits 10 number)
      = Nat.ofDigitChars 10 (Nat.toDigits 10 number) 0 := by
        rw [valueIn, Nat.ofDigitChars]
        exact List.foldl_ext _ _ _ fun value char written => by rw [digitwise char written]
    _ = number := Nat.ofDigitChars_toDigits (by decide) (by decide)

private theorem moreDigits_append {digits rest : List Char}
    (decimal : ∀ char ∈ digits, isDecimal char = true) :
    moreDigits isDecimal (digits ++ '\n' :: rest) = (digits, '\n' :: rest) := by
  induction digits with
  | nil => rfl
  | cons char more ih =>
      obtain ⟨digit, others⟩ := List.forall_mem_cons.mp decimal
      rw [List.cons_append, moreDigits, if_pos digit, ih others]
      rintro _ _ rfl
      cases digit

namespace WholeNumber

variable {digits rest : List Char}

private theorem wholeDigits? (whole : WholeNumber digits) :
    wholeDigits? (digits ++ '\n' :: rest) = some (digits, '\n' :: rest) := by
  cases digits with
  | nil => exact absurd rfl whole.ne_nil
  | cons char more =>
      obtain ⟨digit, others⟩ := List.forall_mem_cons.mp whole.decimal
      by_cases zero : char = '0'
      · subst zero
        rw [(List.cons.inj (whole.leading rfl)).2]
        rfl
      · rw [List.cons_append, Toml.wholeDigits?, digits?, if_pos digit, moreDigits_append others]
        intro _ same
        exact zero (List.cons.inj same).1

/-- Behind some of the digits stands another or the end of the line. -/
theorem field?_after (whole : WholeNumber digits) {width value : Nat} {after : List Char}
    (taken : field? width (digits ++ '\n' :: rest) = some (value, after)) :
    ∃ char later, after = char :: later ∧ (isDecimal char = true ∨ char = '\n') := by
  simp only [field?] at taken
  split at taken
  case isFalse => cases taken
  rename_i filled
  obtain ⟨-, rfl⟩ := Prod.mk.inj (Option.some.inj taken)
  have within : width ≤ digits.length := by
    by_contra beyond
    have broken : '\n' ∈ (digits ++ '\n' :: rest).take width := by
      rw [List.take_append, List.mem_append]
      obtain ⟨further, counted⟩ := Nat.exists_eq_add_of_lt (Nat.lt_of_not_le beyond)
      refine .inr ?_
      rw [show width - digits.length = further + 1 by omega, List.take_succ_cons]
      exact List.mem_cons_self
    exact absurd (List.all_eq_true.mp filled.2 _ broken) (by decide)
  rw [List.drop_append_of_le_length within]
  cases remaining : digits.drop width with
  | nil => exact ⟨'\n', rest, rfl, .inr rfl⟩
  | cons char more =>
      refine ⟨char, more ++ '\n' :: rest, rfl, .inl (whole.decimal char ?_)⟩
      exact List.mem_of_mem_drop (remaining ▸ List.mem_cons_self)

private theorem expect?_after (whole : WholeNumber digits) {width value : Nat} {after : List Char}
    (taken : field? width (digits ++ '\n' :: rest) = some (value, after)) {char : Char}
    (sign : isDecimal char = false ∧ char ≠ '\n') : expect? char after = none := by
  obtain ⟨first, later, rfl, digitOrBreak⟩ := whole.field?_after taken
  rw [expect?, if_neg]
  rintro rfl
  rcases digitOrBreak with digit | isBreak
  · exact absurd (digit.symm.trans sign.1) (by decide)
  · exact sign.2 isBreak

private theorem date?_eq_none (whole : WholeNumber digits) :
    date? (digits ++ '\n' :: rest) = none := by
  unfold date?
  cases taken : field? 4 (digits ++ '\n' :: rest) with
  | none => rfl
  | some year =>
      have apart := @expect?_after _ _ whole _ _ _ taken '-' (by decide)
      simp only [Option.bind_eq_bind, Option.bind_some, apart, Option.bind_none]

private theorem time?_eq_none (whole : WholeNumber digits) :
    time? (digits ++ '\n' :: rest) = none := by
  unfold time? fieldWithin?
  cases taken : field? 2 (digits ++ '\n' :: rest) with
  | none => rfl
  | some hour =>
      have apart := @expect?_after _ _ whole _ _ _ taken ':' (by decide)
      simp only [Option.bind_eq_bind, Option.bind_some]
      split
      · simp only [pure, Option.bind_some, apart, Option.bind_none]
      · rfl

private theorem moment?_eq_none (whole : WholeNumber digits) :
    moment? (digits ++ '\n' :: rest) = none := by
  rw [moment?, dateAndTime?, whole.date?_eq_none, whole.time?_eq_none]
  rfl

/-- A number starts with no sign and no letter. -/
theorem ne_cons (whole : WholeNumber digits) {char : Char} (other : isDecimal char = false) :
    ∀ more, digits ++ '\n' :: rest ≠ char :: more := by
  intro more same
  obtain ⟨first, later, rfl⟩ := List.exists_cons_of_ne_nil whole.ne_nil
  have digit := whole.decimal first List.mem_cons_self
  rw [(List.cons.inj same).1] at digit
  exact absurd (digit.symm.trans other) (by decide)

/-- Nor with a zero and a letter. -/
theorem ne_based (whole : WholeNumber digits) {char : Char} (letter : char ≠ '\n') :
    ∀ more, digits ++ '\n' :: rest ≠ '0' :: char :: more := by
  intro more same
  obtain ⟨first, later, rfl⟩ := List.exists_cons_of_ne_nil whole.ne_nil
  have alone := whole.leading (congrArg some (List.cons.inj same).1)
  rw [alone] at same
  exact letter (List.cons.inj (List.cons.inj same).2).1.symm

private theorem boolean?_eq_none (whole : WholeNumber digits) :
    boolean? (digits ++ '\n' :: rest) = none := by
  rw [boolean?]
  all_goals
    intro _
    exact whole.ne_cons (by decide) _

private theorem sign_eq (whole : WholeNumber digits) :
    sign (digits ++ '\n' :: rest) = (false, digits ++ '\n' :: rest) := by
  rw [sign]
  all_goals
    intro _
    exact whole.ne_cons (by decide) _

private theorem special?_eq_none (whole : WholeNumber digits) :
    special? (digits ++ '\n' :: rest) = none := by
  rw [special?]
  all_goals
    intro _
    exact whole.ne_cons (by decide) _

private theorem float?_eq_none (whole : WholeNumber digits) :
    float? (digits ++ '\n' :: rest) = none := by
  have noFraction : fraction? ('\n' :: rest) = none := rfl
  have noExponent : exponent? ('\n' :: rest) = none := rfl
  simp only [float?, whole.sign_eq, whole.special?_eq_none, whole.wholeDigits?,
    Option.bind_eq_bind, Option.bind_some, noFraction, noExponent, Option.getD_none, if_true]

private theorem integer?_eq (whole : WholeNumber digits)
    (fits : valueIn 10 digits ≤ greatestInteger) :
    integer? (digits ++ '\n' :: rest) =
      some (.integer (valueIn 10 digits), '\n' :: rest) := by
  rw [integer?]
  · simp only [whole.sign_eq, whole.wholeDigits?, integerOf?, if_pos fits,
      Option.bind_eq_bind, Option.bind_some]
    rfl
  all_goals
    intro _
    exact whole.ne_based (by decide) _

private theorem scalar?_eq (whole : WholeNumber digits)
    (fits : valueIn 10 digits ≤ greatestInteger) :
    scalar? (digits ++ '\n' :: rest) =
      some (.integer (valueIn 10 digits), '\n' :: rest) := by
  rw [scalar?, whole.boolean?_eq_none, whole.moment?_eq_none, whole.float?_eq_none,
    whole.integer?_eq fits]
  rfl

private theorem value?_eq (whole : WholeNumber digits) (fits : valueIn 10 digits ≤ greatestInteger)
    (depth allowance : Nat) :
    value? depth (allowance + 1) (digits ++ '\n' :: rest) =
      some (.integer (valueIn 10 digits), '\n' :: rest) := by
  rw [value?, whole.scalar?_eq fits]
  all_goals
    intro _
    exact whole.ne_cons (by decide) _

end WholeNumber

/-! ### Settings -/

def Setting.value : Setting → Toml
  | .text value => .string value
  | .integer value => .integer value
  | .texts values => .array (values.map .string)

/-- Only the integers that a document can hold, and of those the ones from zero. -/
def Setting.Fits : Setting → Prop
  | .integer value => 0 ≤ value ∧ value ≤ greatestInteger
  | _ => True

private theorem exists_quotedText (text : List Char) :
    ∃ tail, quotedText text = '"' :: tail ∨ quotedText text = '\'' :: tail := by
  cases form : (Needs.of text).form with
  | quoted | tripleQuoted =>
      simp only [quotedText, form]
      exact ⟨_, .inl rfl⟩
  | literal | tripleLiteral =>
      simp only [quotedText, form]
      exact ⟨_, .inr rfl⟩

variable {rest : List Char}

private theorem value?_quotedText (text : String) (depth allowance : Nat)
    (noQuote : rest.head? ≠ some '"') (noApostrophe : rest.head? ≠ some '\'') :
    value? depth (allowance + 1) (quotedText text.toList ++ rest) = some (.string text, rest) := by
  have taken := string?_quotedText text.toList noQuote noApostrophe
  obtain ⟨tail, starts | starts⟩ := exists_quotedText text.toList
  all_goals
    rw [starts, List.cons_append] at taken ⊢
    rw [value?, taken, Option.map_some]
    simp only [String.ofList_toList]

def itemLines (values : List String) : List Char :=
  values.flatMap fun value =>
    [' ', ' ', ' ', ' '] ++ quotedText value.toList ++ [',', '\n']

private theorem itemLines_cons (value : String) (more : List String) (rest : List Char) :
    '\n' :: (itemLines (value :: more) ++ ']' :: rest) =
      '\n' :: ' ' :: ' ' :: ' ' :: ' ' ::
        (quotedText value.toList ++ ',' :: '\n' :: (itemLines more ++ ']' :: rest)) := by
  simp only [itemLines, List.flatMap_cons, List.append_assoc, List.cons_append, List.nil_append]

/-- What the reader does when it has come to an item and taken it. -/
theorem items?_item {depth allowance : Nat} {input start between : List Char} {item : Toml}
    (skipped : skipLines false input = start) (goesOn : start.head? ≠ some ']')
    (taken : value? depth allowance start = some (item, between)) :
    items? depth (allowance + 1) input =
      match skipLines false between with
      | ',' :: rest => do
          let (more, after) ← items? depth allowance rest
          pure (item :: more, after)
      | ']' :: rest => pure ([item], rest)
      | _ => none := by
  rw [items?, skipped]
  split
  · exact absurd rfl goesOn
  · rw [taken]
    rfl

private theorem head_quotedText (text : List Char) {char : Char}
    (other : char ≠ '"' ∧ char ≠ '\'') :
    (quotedText text ++ rest).head? ≠ some char := by
  obtain ⟨tail, starts | starts⟩ := exists_quotedText text
  · rw [starts]
    exact fun same => other.1 (Option.some.inj same).symm
  · rw [starts]
    exact fun same => other.2 (Option.some.inj same).symm

private theorem skipLines_quotedText (text : List Char) :
    skipLines false (quotedText text ++ rest) = quotedText text ++ rest := by
  obtain ⟨tail, starts | starts⟩ := exists_quotedText text
  all_goals
    rw [starts]
    rfl

private theorem items?_line (depth allowance : Nat) (value : String) (rest : List Char) :
    items? depth (allowance + 2)
        ('\n' :: ' ' :: ' ' :: ' ' :: ' ' :: (quotedText value.toList ++ ',' :: rest)) =
      (items? depth (allowance + 1) rest).map fun (more, after) =>
        (.string value :: more, after) := by
  have skipped : skipLines false
      ('\n' :: ' ' :: ' ' :: ' ' :: ' ' :: (quotedText value.toList ++ ',' :: rest)) =
        quotedText value.toList ++ ',' :: rest := skipLines_quotedText value.toList
  have taken : value? depth (allowance + 1) (quotedText value.toList ++ ',' :: rest) =
      some (.string value, ',' :: rest) :=
    value?_quotedText value depth allowance (by simp) (by simp)
  have comma : skipLines false (',' :: rest) = ',' :: rest := rfl
  rw [items?_item skipped (head_quotedText _ (by decide)) taken, comma]
  rw [Option.map_eq_bind]
  rfl

private theorem items?_itemLines (depth : Nat) (values : List String) {allowance : Nat}
    (enough : values.length < allowance) :
    items? depth allowance ('\n' :: (itemLines values ++ ']' :: rest)) =
      some (values.map .string, rest) := by
  induction values generalizing allowance with
  | nil =>
      obtain ⟨spare, rfl⟩ := Nat.exists_eq_add_of_lt enough
      rfl
  | cons value more ih =>
      rw [List.length_cons] at enough
      obtain ⟨spare, rfl⟩ : ∃ spare, allowance = spare + 2 := ⟨allowance - 2, by omega⟩
      rw [itemLines_cons, items?_line, ih (by omega)]
      rfl

private theorem length_le_itemLines (values : List String) :
    values.length ≤ (itemLines values).length := by
  induction values with
  | nil => exact Nat.zero_le _
  | cons value more ih =>
      simp only [itemLines, List.flatMap_cons, List.length_append, List.length_cons] at ih ⊢
      omega

private theorem value?_list {allowance : Nat} {inside : List Char} {items : List Toml}
    (taken : items? 1 allowance inside = some (items, rest)) :
    value? 0 (allowance + 1) ('[' :: inside) = some (.array items, rest) := by
  rw [value?, if_pos (by decide)]
  simp only [taken, Option.bind_eq_bind, Option.bind_some]
  rfl

private theorem value?_texts (values : List String) {allowance : Nat}
    (enough : (Setting.texts values).print.length ≤ allowance) :
    value? 0 (allowance + 1) ((Setting.texts values).print ++ '\n' :: rest) =
      some ((Setting.texts values).value, '\n' :: rest) := by
  match values with
  | [] =>
      obtain ⟨spare, rfl⟩ := Nat.exists_eq_add_of_lt (Nat.lt_of_lt_of_le Nat.zero_lt_two enough)
      exact value?_list rfl
  | [value] =>
      have room : 2 ≤ allowance := by
        refine Nat.le_trans ?_ enough
        simp [Setting.print]
      obtain ⟨spare, rfl⟩ : ∃ spare, allowance = spare + 1 + 1 := ⟨allowance - 2, by omega⟩
      have taken : value? 1 (spare + 1) (quotedText value.toList ++ ']' :: '\n' :: rest) =
          some (.string value, ']' :: '\n' :: rest) :=
        value?_quotedText value 1 spare (by simp) (by simp)
      have closed := items?_item (skipLines_quotedText value.toList)
        (head_quotedText _ (by decide)) taken
      rw [Setting.print, List.cons_append, List.cons_append, List.append_assoc,
        List.singleton_append]
      exact value?_list closed
  | first :: second :: more =>
      have printed : (Setting.texts (first :: second :: more)).print =
          '[' :: '\n' :: itemLines (first :: second :: more) ++ [']'] := rfl
      have counted := length_le_itemLines (first :: second :: more)
      rw [printed] at enough ⊢
      simp only [List.length_append, List.length_cons, List.length_nil] at enough counted
      rw [List.append_assoc, List.singleton_append]
      exact value?_list (items?_itemLines 1 _ (by simp only [List.length_cons]; omega))

/-- A setting's value is read back up to the end of its line. -/
theorem value?_print {setting : Setting} (fits : setting.Fits) {allowance : Nat}
    (enough : setting.print.length ≤ allowance) :
    value? 0 (allowance + 1) (setting.print ++ '\n' :: rest) =
      some (setting.value, '\n' :: rest) := by
  cases setting with
  | text value => exact value?_quotedText value 0 allowance (by simp) (by simp)
  | integer value =>
      obtain ⟨number, rfl⟩ := Int.eq_ofNat_of_zero_le fits.1
      have small : number ≤ greatestInteger := Int.ofNat_le.mp fits.2
      have read := @WholeNumber.value?_eq _ rest (wholeNumber_toDigits number)
        ((valueIn_toDigits number).symm ▸ small) 0 allowance
      rw [valueIn_toDigits] at read
      exact read
  | texts values => exact value?_texts values enough

/-! ### Lines -/

def Bare (name : String) : Prop :=
  name.toList ≠ [] ∧ name.toList.all isBare = true

instance (name : String) : Decidable (Bare name) :=
  inferInstanceAs (Decidable (name.toList ≠ [] ∧ name.toList.all isBare = true))

private theorem not_space_of_isBare {char : Char} (bare : isBare char = true) :
    isSpace char = false := by
  cases blank : isSpace char with
  | false => rfl
  | true =>
      rcases (by simpa [isSpace] using blank : char = ' ' ∨ char = '\t') with rfl | rfl <;>
        cases bare

private theorem skipSpaces_cons {char : Char} (other : isSpace char = false) :
    skipSpaces (char :: rest) = char :: rest :=
  List.dropWhile_cons_of_neg (ne_true_of_eq_false other)

namespace Bare

variable {name : String}

private theorem isBare_of_mem (bare : Bare name) : ∀ char ∈ name.toList, isBare char = true :=
  List.all_eq_true.mp bare.2

private theorem exists_first (bare : Bare name) :
    ∃ first more, name.toList = first :: more ∧ isBare first = true := by
  obtain ⟨first, more, split⟩ := List.exists_cons_of_ne_nil bare.1
  exact ⟨first, more, split, bare.isBare_of_mem first (split ▸ List.mem_cons_self)⟩

private theorem skipSpaces (bare : Bare name) :
    skipSpaces (name.toList ++ rest) = name.toList ++ rest := by
  obtain ⟨first, more, split, isBare⟩ := bare.exists_first
  rw [split, List.cons_append, skipSpaces_cons (not_space_of_isBare isBare)]

private theorem ne_cons (bare : Bare name) {char : Char} (other : isBare char = false) :
    ∀ more, name.toList ++ rest ≠ char :: more := by
  intro more same
  obtain ⟨first, later, split, isBare⟩ := bare.exists_first
  rw [split] at same
  rw [(List.cons.inj same).1] at isBare
  exact absurd (isBare.symm.trans other) (by decide)

private theorem simpleName? (bare : Bare name) {char : Char} (ends : isBare char = false) :
    simpleName? (name.toList ++ char :: rest) = some (name, char :: rest) := by
  have taken : (name.toList ++ char :: rest).takeWhile isBare = name.toList := by
    rw [List.takeWhile_append_of_pos bare.isBare_of_mem,
      List.takeWhile_cons_of_neg (ne_true_of_eq_false ends), List.append_nil]
  have dropped : (name.toList ++ char :: rest).dropWhile isBare = char :: rest := by
    rw [List.dropWhile_append_of_pos bare.isBare_of_mem,
      List.dropWhile_cons_of_neg (ne_true_of_eq_false ends)]
  rw [Toml.simpleName?]
  · rw [taken, dropped]
    split
    · rename_i empty
      exact absurd empty bare.1
    · rw [String.ofList_toList]
  all_goals
    intro _
    exact bare.ne_cons (by decide) _

private theorem dotted? (bare : Bare name) {char next : Char} {beyond : List Char}
    (ends : isBare char = false) (blank : Toml.skipSpaces (char :: rest) = next :: beyond)
    (noPoint : next ≠ '.') :
    dotted? (name.toList ++ char :: rest) = some (([], name), next :: beyond) := by
  have named : names? ((name.toList ++ char :: rest).length + 1) (name.toList ++ char :: rest) =
      some ([name], next :: beyond) := by
    rw [names?, bare.skipSpaces, bare.simpleName? ends]
    simp only [Option.bind_eq_bind, Option.bind_some, blank]
    split
    · rename_i point
      exact absurd (List.cons.inj point).1 noPoint
    · rfl
  rw [Toml.dotted?, named]
  rfl

end Bare

def printedSetting (setting : String × Setting) : List Char :=
  setting.1.toList ++ ' ' :: '=' :: ' ' :: (setting.2.print ++ ['\n'])

def settingLine (setting : String × Setting) : Line := .setting [] setting.1 setting.2.value

private theorem Section.print_eq (part : Section) :
    part.print =
      '[' :: (part.name.toList ++ ']' :: '\n' :: part.settings.flatMap printedSetting) := by
  simp only [Section.print, List.cons_append, List.append_assoc, List.nil_append]
  rfl

private theorem skipSpaces_print {setting : Setting} (fits : setting.Fits) :
    skipSpaces (setting.print ++ rest) = setting.print ++ rest := by
  obtain ⟨first, more, starts, other⟩ :
      ∃ first more, setting.print = first :: more ∧ isSpace first = false := by
    cases setting with
    | text value =>
        obtain ⟨tail, starts | starts⟩ := exists_quotedText value.toList
        all_goals exact ⟨_, _, starts, rfl⟩
    | integer value =>
        obtain ⟨number, rfl⟩ := Int.eq_ofNat_of_zero_le fits.1
        obtain ⟨first, more, starts⟩ :=
          List.exists_cons_of_ne_nil (wholeNumber_toDigits number).ne_nil
        have digit := (wholeNumber_toDigits number).decimal first (starts ▸ List.mem_cons_self)
        exact ⟨first, more, starts, not_space_of_isBare (by simp [isBare, digit])⟩
    | texts values =>
        match values with
        | [] | [_] | _ :: _ :: _ => exact ⟨_, _, rfl, rfl⟩
  rw [starts, List.cons_append, skipSpaces_cons other]

private theorem setting?_printed {setting : String × Setting} (bare : Bare setting.1)
    (fits : setting.2.Fits) :
    setting? (printedSetting setting ++ rest) = some (settingLine setting, '\n' :: rest) := by
  have named : dotted? (printedSetting setting ++ rest) =
      some (([], setting.1), '=' :: ' ' :: (setting.2.print ++ '\n' :: rest)) := by
    rw [printedSetting, List.append_assoc, List.cons_append, List.cons_append, List.cons_append,
      List.append_assoc, List.singleton_append]
    exact bare.dotted? (by decide) rfl (by decide)
  have blank : skipSpaces (' ' :: (setting.2.print ++ '\n' :: rest)) =
      setting.2.print ++ '\n' :: rest := skipSpaces_print fits
  have enough : setting.2.print.length ≤ 2 * (printedSetting setting ++ rest).length + 1 := by
    simp only [printedSetting, List.length_append, List.length_cons]
    omega
  have valued := @value?_print rest _ fits _ enough
  simp only [setting?, named, expect?, if_true, blank, valued, Option.bind_eq_bind,
    Option.bind_some]
  rfl

private theorem lines?_blank (allowance : Nat) :
    lines? (allowance + 1) ('\n' :: rest) = lines? allowance rest := rfl

private theorem lines?_setting {setting : String × Setting} (bare : Bare setting.1)
    (fits : setting.2.Fits) (allowance : Nat) :
    lines? (allowance + 1) (printedSetting setting ++ rest) =
      (lines? allowance rest).map (settingLine setting :: ·) := by
  have read := @setting?_printed rest _ bare fits
  have started : skipSpaces (printedSetting setting ++ rest) = printedSetting setting ++ rest := by
    rw [printedSetting, List.append_assoc, bare.skipSpaces]
  have apart : ∀ char, isBare char = false → ∀ more,
      printedSetting setting ++ rest ≠ char :: more := by
    intro char other
    rw [printedSetting, List.append_assoc]
    exact bare.ne_cons other
  have ended : lineEnd? ('\n' :: rest) = some rest := rfl
  rw [lines?, started]
  split
  · rename_i empty
    exact absurd (List.append_eq_nil_iff.mp empty).1 (by simp [printedSetting])
  · rename_i same
    exact absurd same (apart _ rfl _)
  · rename_i same
    exact absurd same (apart _ rfl _)
  · rename_i same
    exact absurd same (apart _ rfl _)
  · rename_i same
    exact absurd same (apart _ rfl _)
  · rw [read, Option.map_eq_bind]
    simp only [ended, Option.bind_eq_bind, Option.bind_some]
    rfl

private theorem lines?_header {name : String} (bare : Bare name) (allowance : Nat) :
    lines? (allowance + 1) ('[' :: (name.toList ++ ']' :: '\n' :: rest)) =
      (lines? allowance rest).map (.header [] name :: ·) := by
  have named : dotted? (name.toList ++ ']' :: '\n' :: rest) =
      some (([], name), ']' :: '\n' :: rest) :=
    bare.dotted? (by decide) rfl (by decide)
  have read : header? (name.toList ++ ']' :: '\n' :: rest) =
      some (.header [] name, '\n' :: rest) := by
    unfold header?
    split
    · rename_i same
      exact absurd same (bare.ne_cons (by decide) _)
    · rw [named]
      rfl
  have ended : lineEnd? ('\n' :: rest) = some rest := rfl
  have started : skipSpaces ('[' :: (name.toList ++ ']' :: '\n' :: rest)) =
      '[' :: (name.toList ++ ']' :: '\n' :: rest) := rfl
  rw [lines?, started]
  simp only [read, ended, Option.bind_eq_bind, Option.bind_some, Option.map_eq_bind]
  rfl

/-- A part of a document that the reader can take: its names need no quotes and differ, and
its settings fit. -/
structure Section.Sound (part : Section) : Prop where
  bare : Bare part.name
  names : ∀ setting ∈ part.settings, Bare setting.1
  distinct : (part.settings.map Prod.fst).Nodup
  fits : ∀ setting ∈ part.settings, setting.2.Fits

def Section.lines (part : Section) : List Line :=
  .header [] part.name :: part.settings.map settingLine

private theorem lines?_settings {settings : List (String × Setting)}
    (names : ∀ setting ∈ settings, Bare setting.1)
    (fits : ∀ setting ∈ settings, setting.2.Fits) (allowance : Nat) :
    lines? (allowance + settings.length) (settings.flatMap printedSetting ++ rest) =
      (lines? allowance rest).map (settings.map settingLine ++ ·) := by
  induction settings with
  | nil => simp
  | cons setting more ih =>
      obtain ⟨bare, otherNames⟩ := List.forall_mem_cons.mp names
      obtain ⟨fit, otherFits⟩ := List.forall_mem_cons.mp fits
      rw [List.flatMap_cons, List.append_assoc, List.length_cons, ← Nat.add_assoc,
        lines?_setting bare fit, ih otherNames otherFits, Option.map_map]
      rfl

private theorem Section.lines?_print {part : Section} (sound : part.Sound) (allowance : Nat) :
    lines? (allowance + part.settings.length + 1) (part.print ++ rest) =
      (lines? allowance rest).map (part.lines ++ ·) := by
  rw [part.print_eq, List.cons_append, List.append_assoc, List.cons_append, List.cons_append,
    lines?_header sound.bare, lines?_settings sound.names sound.fits, Option.map_map]
  rfl

/-- As many lines as there are settings, headers and empty lines, at most. -/
def lineCount (parts : List Section) : Nat :=
  (parts.map fun part => part.settings.length + 2).sum

private theorem lines?_printSections {parts : List Section} (sound : ∀ part ∈ parts, part.Sound)
    {allowance : Nat} (enough : lineCount parts < allowance) :
    lines? allowance (printSections parts) = some (parts.flatMap Section.lines) := by
  induction parts generalizing allowance with
  | nil =>
      obtain ⟨spare, rfl⟩ := Nat.exists_eq_add_of_lt enough
      rfl
  | cons part more ih =>
      obtain ⟨first, others⟩ := List.forall_mem_cons.mp sound
      have counted : lineCount (part :: more) = part.settings.length + 2 + lineCount more := by
        simp only [lineCount, List.map_cons, List.sum_cons]
      cases more with
      | nil =>
          obtain ⟨spare, rfl⟩ : ∃ spare, allowance = spare + 1 + part.settings.length + 1 :=
            ⟨allowance - part.settings.length - 2, by omega⟩
          have read := @Section.lines?_print [] _ first (spare + 1)
          rw [List.append_nil] at read
          rw [printSections, read, List.flatMap_singleton]
          exact congrArg some (List.append_nil _)
      | cons second beyond =>
          obtain ⟨spare, rfl⟩ : ∃ spare, allowance = spare + 1 + part.settings.length + 1 :=
            ⟨allowance - part.settings.length - 2, by omega⟩
          rw [printSections, Section.lines?_print first, lines?_blank, ih others (by omega),
            List.flatMap_cons]
          · rfl
          · exact List.cons_ne_nil _ _

private theorem length_le_printSettings (settings : List (String × Setting)) :
    settings.length ≤ (settings.flatMap printedSetting).length := by
  induction settings with
  | nil => exact Nat.zero_le _
  | cons setting more ih =>
      simp only [List.flatMap_cons, printedSetting, List.length_append, List.length_cons] at ih ⊢
      omega

private theorem Section.length_le_print (part : Section) :
    part.settings.length + 2 ≤ part.print.length := by
  have counted := length_le_printSettings part.settings
  simp only [part.print_eq, List.length_append, List.length_cons]
  omega

private theorem lineCount_le (parts : List Section) :
    lineCount parts ≤ (printSections parts).length := by
  induction parts with
  | nil => exact Nat.le_refl _
  | cons part more ih =>
      have first := part.length_le_print
      have counted : lineCount (part :: more) = part.settings.length + 2 + lineCount more := by
        simp only [lineCount, List.map_cons, List.sum_cons]
      cases more with
      | nil =>
          have rest : lineCount [] = 0 := rfl
          rw [printSections]
          omega
      | cons second beyond =>
          rw [printSections]
          · simp only [List.length_append, List.length_cons]
            omega
          · exact List.cons_ne_nil _ _

/-! ### Tables -/

def leaves (settings : List (String × Setting)) : Branches :=
  settings.map fun setting => (setting.1, .leaf setting.2.value)

def finished (parts : List Section) : Branches :=
  parts.map fun part => (part.name, .table false false (leaves part.settings))

def tables (parts : List Section) : Toml :=
  .table (parts.map fun part =>
    (part.name, .table (part.settings.map fun setting => (setting.1, setting.2.value))))

private theorem finishMembers_leaves (settings : List (String × Setting)) :
    finishMembers (leaves settings) =
      settings.map fun setting => (setting.1, setting.2.value) := by
  induction settings with
  | nil => rfl
  | cons setting more ih =>
      rw [leaves, List.map_cons, finishMembers, List.map_cons, Branch.finish]
      exact congrArg (_ :: ·) ih

private theorem finishMembers_finished (parts : List Section) :
    .table (finishMembers (finished parts)) = tables parts := by
  refine congrArg Toml.table ?_
  induction parts with
  | nil => rfl
  | cons part more ih =>
      rw [finished, List.map_cons, finishMembers, List.map_cons, Branch.finish,
        finishMembers_leaves]
      exact congrArg (_ :: ·) ih

private theorem lookup_eq_none {β : Type} {name : String} {members : List (String × β)}
    (absent : name ∉ members.map Prod.fst) : members.lookup name = none := by
  rw [List.lookup_eq_none_iff]
  intro member within
  rw [bne_iff_ne]
  rintro rfl
  exact absent (List.mem_map_of_mem within)

private theorem Branches.put_absent {name : String} {branches : Branches} (branch : Branch)
    (absent : name ∉ branches.map Prod.fst) :
    branches.put name branch = branches ++ [(name, branch)] := by
  induction branches with
  | nil => rfl
  | cons first rest ih =>
      rw [List.map_cons, List.mem_cons, not_or] at absent
      rw [Branches.put, if_neg (Ne.symm absent.1), ih absent.2]
      rfl

private theorem Branches.insert?_absent {name : String} {branches : Branches} (value : Toml)
    (absent : name ∉ branches.map Prod.fst) :
    branches.insert? [] name value = some (branches ++ [(name, .leaf value)]) := by
  simp [Branches.insert?, Branches.edit?, lookup_eq_none absent]

namespace Draft

/-- Settings of new names are added to the table under way. -/
theorem foldlM_settings {draft : Draft} (settings : List (String × Setting))
    (distinct : (draft.members.map Prod.fst ++ settings.map Prod.fst).Nodup) :
    (settings.map settingLine).foldlM add? draft =
      some { draft with members := draft.members ++ leaves settings } := by
  induction settings generalizing draft with
  | nil => simp [leaves]
  | cons setting more ih =>
      have absent : setting.1 ∉ draft.members.map Prod.fst := by
        rw [List.map_cons, List.nodup_middle, List.nodup_cons, List.mem_append] at distinct
        exact fun within => distinct.1 (.inl within)
      have added : draft.add? (settingLine setting) =
          some { draft with
            members := draft.members ++ [(setting.1, .leaf setting.2.value)] } := by
        rw [settingLine, add?, Branches.insert?_absent _ absent]
        rfl
      rw [List.map_cons, List.foldlM_cons, added]
      simp only [Option.bind_eq_bind, Option.bind_some]
      rw [ih]
      · simp only [leaves, List.map_cons, List.append_assoc, List.singleton_append]
      · simpa only [List.map_append, List.map_cons, List.map_nil, List.append_assoc,
          List.singleton_append] using distinct

private theorem openTable?_absent {root : Branches} {name : String}
    (absent : name ∉ root.map Prod.fst) :
    openTable? root [] name = some { root, heading := some ([], name, false) } := by
  simp [openTable?, Branches.edit?, lookup_eq_none absent]

private theorem close?_absent {root members : Branches} {name : String}
    (absent : name ∉ root.map Prod.fst) :
    close? { root, heading := some ([], name, false), members } =
      some (root ++ [(name, .table false false members)]) := by
  simp [close?, Branches.edit?, lookup_eq_none absent, Branches.put_absent _ absent]

/-- The lines of a part give its table a place behind the others. -/
theorem foldlM_section {draft : Draft} {root : Branches} {part : Section}
    (sound : part.Sound) (closed : draft.close? = some root)
    (absent : part.name ∉ root.map Prod.fst) :
    ∃ later, part.lines.foldlM add? draft = some later ∧
      later.close? = some (root ++ finished [part]) := by
  refine ⟨{ root, heading := some ([], part.name, false), members := leaves part.settings },
    ?_, close?_absent absent⟩
  have opened : draft.add? (.header [] part.name) =
      some { root, heading := some ([], part.name, false) } := by
    rw [add?, closed]
    exact openTable?_absent absent
  rw [Section.lines, List.foldlM_cons, opened]
  simp only [Option.bind_eq_bind, Option.bind_some]
  have filled := @foldlM_settings { root, heading := some ([], part.name, false) } part.settings
    sound.distinct
  rw [filled]
  rfl

private theorem foldlM_sections {draft : Draft} {root : Branches} (parts : List Section)
    (sound : ∀ part ∈ parts, part.Sound) (closed : draft.close? = some root)
    (distinct : (root.map Prod.fst ++ parts.map Section.name).Nodup) :
    ∃ later, (parts.flatMap Section.lines).foldlM add? draft = some later ∧
      later.close? = some (root ++ finished parts) := by
  induction parts generalizing draft root with
  | nil => exact ⟨draft, rfl, by rw [closed, finished, List.map_nil, List.append_nil]⟩
  | cons part more ih =>
      obtain ⟨first, others⟩ := List.forall_mem_cons.mp sound
      have absent : part.name ∉ root.map Prod.fst := by
        rw [List.map_cons, List.nodup_middle, List.nodup_cons, List.mem_append] at distinct
        exact fun within => distinct.1 (.inl within)
      obtain ⟨between, reached, closedBetween⟩ := foldlM_section first closed absent
      obtain ⟨later, rest, closedLater⟩ := ih others closedBetween (by
        simpa only [finished, List.map_append, List.map_cons, List.map_nil, List.append_assoc,
          List.singleton_append] using distinct)
      refine ⟨later, ?_, ?_⟩
      · rw [List.flatMap_cons, List.foldlM_append, reached]
        exact rest
      · rw [closedLater, List.append_assoc]
        rfl

end Draft

private theorem ofLines?_lines {parts : List Section} (sound : ∀ part ∈ parts, part.Sound)
    (distinct : (parts.map Section.name).Nodup) :
    ofLines? (parts.flatMap Section.lines) = some (tables parts) := by
  obtain ⟨later, reached, closed⟩ :=
    @Draft.foldlM_sections {} [] parts sound rfl distinct
  rw [ofLines?, reached]
  simp only [Option.bind_eq_bind, Option.bind_some, closed, List.nil_append,
    finishMembers_finished]
  rfl

private theorem dropMark_printSections (parts : List Section) :
    dropMark (printSections parts) = printSections parts := by
  match parts with
  | [] => rfl
  | [part] =>
      rw [printSections, part.print_eq]
      rfl
  | part :: second :: more =>
      rw [printSections, part.print_eq]
      · rfl
      · exact List.cons_ne_nil _ _

/-- What sections say is read back from what is printed for them. -/
theorem read?_printSections {parts : List Section} (sound : ∀ part ∈ parts, part.Sound)
    (distinct : (parts.map Section.name).Nodup) :
    read? (printSections parts) = some (tables parts) := by
  have counted := lineCount_le parts
  simp only [read?, dropMark_printSections, lines?_printSections sound (Nat.lt_succ_of_le counted),
    Option.bind_eq_bind, Option.bind_some, ofLines?_lines sound distinct]

end FloodMesh.Toml
