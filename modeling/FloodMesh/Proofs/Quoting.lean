/-
Every text can be written as a TOML string and is read back as it was.

Whichever of the forms is chosen, the reader takes exactly what was written, if what
follows is no further quote or apostrophe. Between quotes this holds character by
character. The triple forms end at the first three delimiters in a row, so there the
delimiters of the text itself matter: at most two stand together, and those at the end of
the text are told from the closing three because the reader looks up to five ahead.
-/

import FloodMesh.Toml.Printer
import FloodMesh.Toml.Strings
import Mathlib

namespace FloodMesh.Toml

/-! ### Characters between quotes -/

private theorem coded?_code : ∀ code : Fin 128,
    coded? ['0', '0', Bytes.hexDigit (code.val / 16), (Bytes.hexDigit (code.val % 16)).toUpper] =
      some (Char.ofNat code.val) := by
  decide +kernel

inductive Spelled (triple : Bool) (char : Char) : List Char → Prop
  | short {letter : Char} (means : shortEscape? letter = some char) :
      Spelled triple char ['\\', letter]
  | coded {a b c d : Char} (means : coded? [a, b, c, d] = some char) :
      Spelled triple char ['\\', 'u', a, b, c, d]
  | broken (allowed : triple = true) (isBreak : char = '\n') : Spelled triple char ['\n']
  | plain (isPlain : isPlain char = true) (noQuote : char ≠ '"') (noBackslash : char ≠ '\\') :
      Spelled triple char [char]

private theorem spelled_escapedChar (triple : Bool) {char : Char} (noQuote : char ≠ '"') :
    Spelled triple char (escapedChar triple char) := by
  have ofCode : ∀ {code : Nat}, char.toNat = code → char = Char.ofNat code := by
    rintro code rfl
    exact (Char.ofNat_toNat char).symm
  unfold escapedChar
  split
  · rename_i isBackslash
    subst isBackslash
    exact .short rfl
  rename_i noBackslash
  split
  · rename_i isTab
    subst isTab
    exact .short rfl
  split
  · rename_i isBreak
    subst isBreak
    cases triple with
    | true => exact .broken rfl rfl
    | false => exact .short rfl
  split
  · rename_i isReturn
    subst isReturn
    exact .short rfl
  split
  · rename_i isBackspace
    rw [ofCode isBackspace]
    exact .short rfl
  split
  · rename_i isFeed
    rw [ofCode isFeed]
    exact .short rfl
  split
  · rename_i controlled
    have small : char.toNat < 128 := by omega
    refine .coded ?_
    rw [coded?_code ⟨char.toNat, small⟩, Char.ofNat_toNat]
  · rename_i uncontrolled
    refine .plain ?_ noQuote noBackslash
    unfold isPlain
    simp only [Bool.or_eq_true, Bool.and_eq_true, decide_eq_true_eq]
    omega

private theorem spelled_quote (triple : Bool) : Spelled triple '"' ['\\', '"'] := .short rfl

/-- No escape letter is a blank, a break or the start of a code. -/
theorem shortEscape?_eq_some {letter char : Char} (means : shortEscape? letter = some char) :
    letter ≠ 'u' ∧ letter ≠ 'U' ∧ isSpace letter = false ∧ letter ≠ '\n' ∧ letter ≠ '\r' := by
  refine ⟨?_, ?_, ?_, ?_, ?_⟩
  · rintro rfl
    cases means
  · rintro rfl
    cases means
  · cases blank : isSpace letter with
    | false => rfl
    | true =>
        rcases (by simpa [isSpace] using blank : letter = ' ' ∨ letter = '\t') with rfl | rfl <;>
          cases means
  · rintro rfl
    cases means
  · rintro rfl
    cases means

private theorem quotedRest_spelled {char : Char} {written : List Char}
    (spelled : Spelled false char written) (rest : List Char) :
    quotedRest (written ++ rest) = before char (quotedRest rest) := by
  cases spelled with
  | short means =>
      obtain ⟨notCode, notLong, _, _, _⟩ := shortEscape?_eq_some means
      rw [List.cons_append, List.cons_append, List.nil_append, quotedRest]
      · rw [means]
        rfl
      all_goals simp_all
  | coded means =>
      simp only [List.cons_append, List.nil_append, quotedRest, means]
      rfl
  | broken allowed => cases allowed
  | plain isPlain noQuote noBackslash =>
      rw [List.cons_append, List.nil_append, quotedRest]
      · rw [if_pos ⟨isPlain, noBackslash⟩]
      all_goals simp_all

private theorem quotedRest_escaped (text rest : List Char) (run : Nat) :
    quotedRest (escaped false 0 run text ++ '"' :: rest) = some (text, rest) := by
  induction text generalizing run with
  | nil => rw [escaped, List.nil_append, quotedRest]
  | cons char more ih =>
      by_cases quote : char = '"'
      · subst quote
        have step := quotedRest_spelled (spelled_quote false)
          (escaped false 0 0 more ++ '"' :: rest)
        rw [ih] at step
        rw [escaped, if_pos rfl, if_neg (Nat.not_lt_zero _)]
        exact step
      · have step := quotedRest_spelled (spelled_escapedChar false quote)
          (escaped false 0 0 more ++ '"' :: rest)
        rw [ih] at step
        rw [escaped, if_neg quote, List.append_assoc]
        exact step

/-! ### Between triple quotes -/

/-- What is spelled out starts with no quote. -/
theorem Spelled.head_ne {triple : Bool} {char : Char} {written : List Char}
    (spelled : Spelled triple char written) :
    ∃ head tail, written = head :: tail ∧ head ≠ '"' := by
  cases spelled with
  | short | coded => exact ⟨_, _, rfl, by decide⟩
  | broken => exact ⟨_, _, rfl, by decide⟩
  | plain isPlain noQuote => exact ⟨_, _, rfl, noQuote⟩

private theorem tripleQuotedRest_spelled {char : Char} {written : List Char}
    (spelled : Spelled true char written) (rest : List Char) :
    tripleQuotedRest false (written ++ rest) = before char (tripleQuotedRest false rest) := by
  cases spelled with
  | @short letter means =>
      obtain ⟨notCode, notLong, notBlank, notBreak, notReturn⟩ := shortEscape?_eq_some means
      have goesOn : lineEnds (letter :: rest) = false := by
        rw [lineEnds]
        · rw [notBlank]
          rfl
        all_goals simp_all
      rw [List.cons_append, List.cons_append, List.nil_append, tripleQuotedRest]
      · rw [if_neg (ne_true_of_eq_false goesOn), means]
        rfl
      all_goals simp_all
  | coded means =>
      simp only [List.cons_append, List.nil_append, tripleQuotedRest, means]
      rfl
  | broken allowed isBreak =>
      subst isBreak
      rw [List.cons_append, List.nil_append, tripleQuotedRest]
      · simp
      all_goals simp_all
  | plain isPlain noQuote noBackslash =>
      have noReturn : char ≠ '\r' := by
        rintro rfl
        cases isPlain
      rw [List.cons_append, List.nil_append, tripleQuotedRest]
      · rw [if_neg (by simp), if_pos (.inl isPlain)]
      all_goals simp_all

/-- A quote that is not the first of three stands for itself. -/
theorem tripleQuotedRest_quote {rest : List Char}
    (apart : ∀ more, rest ≠ '"' :: '"' :: more) :
    tripleQuotedRest false ('"' :: rest) = before '"' (tripleQuotedRest false rest) := by
  rw [tripleQuotedRest]
  · simp [isSpace, isPlain]
  all_goals simp_all

/-- A quote that is too many, like any other character, starts with no quote. -/
theorem escaped_apart {triple : Bool} {limit run : Nat} {char : Char} (more : List Char)
    (spelledOut : char ≠ '"' ∨ limit ≤ run) :
    ∃ head tail, escaped triple limit run (char :: more) = head :: tail ∧ head ≠ '"' := by
  by_cases quote : char = '"'
  · have full : ¬ run < limit := by
      rcases spelledOut with different | full
      · exact absurd quote different
      · omega
    rw [escaped, if_pos quote, if_neg full]
    exact ⟨_, _, rfl, by decide⟩
  · obtain ⟨head, tail, written, different⟩ := (spelled_escapedChar triple quote).head_ne
    rw [escaped, if_neg quote, written]
    exact ⟨head, _, rfl, different⟩

def tripleQuote : List Char := ['"', '"', '"']

/-- Behind a quote that stands for itself no two others follow, unless the text ends. -/
theorem escaped_ne_quotes {run : Nat} (second : Char) (others closing : List Char)
    (within : 1 ≤ run) (goesOn : run = 1 → second = '"' → others ≠ []) :
    ∀ more, escaped true 2 run (second :: others) ++ closing ≠ '"' :: '"' :: more := by
  intro more same
  by_cases spelledOut : second ≠ '"' ∨ 2 ≤ run
  · obtain ⟨head, tail, written, different⟩ := escaped_apart others spelledOut
    rw [written] at same
    exact different (List.cons.inj same).1
  · have isQuote : second = '"' := by
      by_contra different
      exact spelledOut (.inl different)
    have first : run = 1 := by omega
    subst isQuote first
    obtain ⟨third, rest, split⟩ := List.exists_cons_of_ne_nil (goesOn rfl rfl)
    obtain ⟨head, tail, written, different⟩ :=
      @escaped_apart true 2 2 third rest (.inr (Nat.le_refl 2))
    rw [escaped, if_pos rfl, if_pos (by decide), split, written] at same
    exact different (List.cons.inj (List.cons.inj same).2).1

private theorem tripleQuotedRest_escaped {rest : List Char} (after : rest.head? ≠ some '"')
    (text : List Char) {run : Nat} (few : run ≤ 2) :
    tripleQuotedRest false (escaped true 2 run text ++ (tripleQuote ++ rest)) =
      some (text, rest) := by
  have ends : ∀ more, rest ≠ '"' :: more := by
    rintro more rfl
    exact after rfl
  induction text generalizing run with
  | nil =>
      simp only [escaped, tripleQuote, List.nil_append, List.cons_append]
      rw [tripleQuotedRest]
      all_goals simp_all
  | cons char more ih =>
      by_cases quote : char = '"'
      · subst quote
        by_cases free : run < 2
        · rw [escaped, if_pos rfl, if_pos free]
          -- the closing quotes may follow at once, or after one more
          cases more with
          | nil =>
              simp only [escaped, tripleQuote, List.nil_append, List.cons_append]
              rw [tripleQuotedRest]
              all_goals simp_all
          | cons second others =>
              by_cases last : run = 0 ∧ second = '"' ∧ others = []
              · obtain ⟨rfl, rfl, rfl⟩ := last
                simp only [escaped, tripleQuote, List.nil_append, List.cons_append]
                rfl
              · rw [List.cons_append, tripleQuotedRest_quote, ih (by omega)]
                · rfl
                · apply escaped_ne_quotes _ _ _ (Nat.succ_pos _)
                  intro first isQuote none_left
                  exact last ⟨by omega, isQuote, none_left⟩
        · have step := tripleQuotedRest_spelled (spelled_quote true)
            (escaped true 2 0 more ++ (tripleQuote ++ rest))
          rw [ih (Nat.zero_le _)] at step
          rw [escaped, if_pos rfl, if_neg free]
          exact step
      · have step := tripleQuotedRest_spelled (spelled_escapedChar true quote)
          (escaped true 2 0 more ++ (tripleQuote ++ rest))
        rw [ih (Nat.zero_le _)] at step
        rw [escaped, if_neg quote, List.append_assoc]
        exact step

/-! ### Between apostrophes -/

private theorem literalRest_append {text : List Char} (rest : List Char)
    (literal : ∀ char ∈ text, isPlain char = true ∧ char ≠ '\'') :
    literalRest (text ++ '\'' :: rest) = some (text, rest) := by
  induction text with
  | nil => rw [List.nil_append, literalRest]
  | cons char more ih =>
      obtain ⟨⟨plain, apart⟩, others⟩ := List.forall_mem_cons.mp literal
      rw [List.cons_append, literalRest]
      · rw [if_pos plain, ih others]
        rfl
      · simpa using apart

def tripleApostrophe : List Char := ['\'', '\'', '\'']

/-- An apostrophe that is not the first of three stands for itself. -/
theorem tripleLiteralRest_apostrophe {rest : List Char}
    (apart : ∀ more, rest ≠ '\'' :: '\'' :: more) :
    tripleLiteralRest ('\'' :: rest) = before '\'' (tripleLiteralRest rest) := by
  rw [tripleLiteralRest]
  · simp [isPlain]
  all_goals simp_all

private theorem tripleLiteralRest_plain {char : Char} (rest : List Char)
    (plain : isPlain char = true ∨ char = '\n') (apart : char ≠ '\'') :
    tripleLiteralRest (char :: rest) = before char (tripleLiteralRest rest) := by
  have noReturn : char ≠ '\r' := by
    rintro rfl
    rcases plain with plain | isBreak
    · cases plain
    · cases isBreak
  rw [tripleLiteralRest]
  · rw [if_pos plain]
  all_goals simp_all

private theorem tripleLiteralRest_append {rest : List Char} (after : rest.head? ≠ some '\'')
    (text : List Char) (literal : ∀ char ∈ text, isPlain char = true ∨ char = '\n')
    (loose : ∀ earlier later, text ≠ earlier ++ (tripleApostrophe ++ later)) :
    tripleLiteralRest (text ++ (tripleApostrophe ++ rest)) = some (text, rest) := by
  have ends : ∀ more, rest ≠ '\'' :: more := by
    rintro more rfl
    exact after rfl
  induction text with
  | nil =>
      simp only [tripleApostrophe, List.nil_append, List.cons_append]
      rw [tripleLiteralRest]
      all_goals simp_all
  | cons char more ih =>
      obtain ⟨plain, others⟩ := List.forall_mem_cons.mp literal
      have looser : ∀ earlier later, more ≠ earlier ++ (tripleApostrophe ++ later) := by
        rintro earlier later rfl
        exact loose (char :: earlier) later rfl
      have step := ih others looser
      by_cases apostrophe : char = '\''
      · subst apostrophe
        -- the closing apostrophes may follow at once, or after one more
        cases more with
        | nil =>
            simp only [tripleApostrophe, List.nil_append, List.cons_append]
            rw [tripleLiteralRest]
            all_goals simp_all
        | cons second beyond =>
            by_cases last : second = '\'' ∧ beyond = []
            · obtain ⟨rfl, rfl⟩ := last
              simp only [tripleApostrophe, List.nil_append, List.cons_append, tripleLiteralRest]
            · rw [List.cons_append, tripleLiteralRest_apostrophe, step]
              · rfl
              · intro tail same
                obtain ⟨isSecond, same⟩ := List.cons.inj same
                subst isSecond
                cases beyond with
                | nil => exact last ⟨rfl, rfl⟩
                | cons third remaining =>
                    obtain ⟨_, same⟩ := List.cons.inj same
                    obtain ⟨isThird, _⟩ := List.cons.inj same
                    subst isThird
                    exact loose [] remaining rfl
      · rw [List.cons_append, tripleLiteralRest_plain _ plain apostrophe, step]
        rfl

/-! ### What the choice of a form knows -/

private theorem isPlain_or_break {char : Char} (uncontrolled : isControl char = false) :
    isPlain char = true ∨ char = '\n' := by
  by_cases isBreak : char = '\n'
  · exact .inr isBreak
  by_cases isTab : char = '\t'
  · subst isTab
    exact .inl rfl
  · have high : 0x20 ≤ char.toNat ∧ char.toNat ≠ 0x7F := by
      simpa [isControl, isBreak, isTab] using uncontrolled
    refine .inl ?_
    simp only [isPlain, Bool.or_eq_true, Bool.and_eq_true, decide_eq_true_eq]
    exact .inr high

/-- Where a run and the longest one so far go at a character. -/
def counted (wanted : Char) (runs : Nat × Nat) (char : Char) : Nat × Nat :=
  if char = wanted then (max runs.1 (runs.2 + 1), runs.2 + 1) else (runs.1, 0)

private theorem longestRun_eq (wanted : Char) (text : List Char) :
    longestRun wanted text = (text.foldl (counted wanted) (0, 0)).1 := rfl

private theorem counted_within (wanted char : Char) (runs : Nat × Nat) :
    (counted wanted runs char).2 ≤ (counted wanted runs char).1 := by
  unfold counted
  split
  · exact Nat.le_max_right _ _
  · exact Nat.zero_le _

private theorem foldl_counted_within (wanted : Char) (text : List Char) {runs : Nat × Nat}
    (within : runs.2 ≤ runs.1) :
    (text.foldl (counted wanted) runs).2 ≤ (text.foldl (counted wanted) runs).1 := by
  induction text generalizing runs with
  | nil => exact within
  | cons char rest ih => exact ih (counted_within wanted char runs)

private theorem le_foldl_counted (wanted : Char) (text : List Char) (runs : Nat × Nat) :
    runs.1 ≤ (text.foldl (counted wanted) runs).1 := by
  induction text generalizing runs with
  | nil => exact Nat.le_refl _
  | cons char rest ih =>
      refine Nat.le_trans ?_ (ih _)
      unfold counted
      split
      · exact Nat.le_max_left _ _
      · exact Nat.le_refl _

private theorem le_foldl_counted_replicate (wanted : Char) (count : Nat) {runs : Nat × Nat}
    (within : runs.2 ≤ runs.1) :
    runs.2 + count ≤ ((List.replicate count wanted).foldl (counted wanted) runs).1 := by
  induction count generalizing runs with
  | zero => exact within
  | succ count ih =>
      have longer := ih (counted_within wanted wanted runs)
      rw [counted, if_pos rfl] at longer
      rw [List.replicate_succ, List.foldl_cons, counted, if_pos rfl]
      omega

/-- No run is longer than the longest. -/
theorem le_longestRun (wanted : Char) (count : Nat) (earlier later : List Char) :
    count ≤ longestRun wanted (earlier ++ (List.replicate count wanted ++ later)) := by
  rw [longestRun_eq, List.foldl_append, List.foldl_append]
  have within : (earlier.foldl (counted wanted) (0, 0)).2 ≤
      (earlier.foldl (counted wanted) (0, 0)).1 :=
    foldl_counted_within wanted earlier (Nat.le_refl 0)
  have reached := le_foldl_counted_replicate wanted count within
  have kept := le_foldl_counted wanted later
    ((List.replicate count wanted).foldl (counted wanted) (earlier.foldl (counted wanted) (0, 0)))
  omega

private theorem ne_of_longestRun_eq_zero {wanted : Char} {text : List Char}
    (absent : longestRun wanted text = 0) : ∀ char ∈ text, char ≠ wanted := by
  rintro char within rfl
  obtain ⟨earlier, later, rfl⟩ := List.append_of_mem within
  have counted := le_longestRun char 1 earlier later
  rw [List.replicate_one, List.singleton_append] at counted
  omega

private theorem loose_of_longestRun_le {text : List Char} (few : longestRun '\'' text ≤ 2) :
    ∀ earlier later, text ≠ earlier ++ (tripleApostrophe ++ later) := by
  rintro earlier later rfl
  have counted := le_longestRun '\'' 3 earlier later
  rw [show List.replicate 3 '\'' = tripleApostrophe from rfl] at counted
  omega

variable {text : List Char}

private theorem uncontrolled_of_any (none_controls : (Needs.of text).control = false) :
    ∀ char ∈ text, isControl char = false := by
  intro char within
  by_contra controls
  have some_controls : (Needs.of text).control = true :=
    List.any_eq_true.mpr ⟨char, within, by simpa using controls⟩
  exact absurd (some_controls.symm.trans none_controls) (by decide)

private theorem ne_break_of_newline (unbroken : (Needs.of text).newline = false) :
    ∀ char ∈ text, char ≠ '\n' := by
  rintro char within rfl
  have broken : (Needs.of text).newline = true := List.contains_iff_mem.mpr within
  exact absurd (broken.symm.trans unbroken) (by decide)

private theorem plain_of_literal (form : (Needs.of text).form = .literal) :
    ∀ char ∈ text, isPlain char = true ∧ char ≠ '\'' := by
  have known : (Needs.of text).control = false ∧ (Needs.of text).apostrophes = 0 ∧
      (Needs.of text).newline = false := by
    grind [Needs.form]
  obtain ⟨uncontrolled, absent, unbroken⟩ := known
  intro char within
  refine ⟨?_, ne_of_longestRun_eq_zero absent char within⟩
  rcases isPlain_or_break (uncontrolled_of_any uncontrolled char within) with plain | isBreak
  · exact plain
  · exact absurd isBreak (ne_break_of_newline unbroken char within)

private theorem plain_of_tripleLiteral (form : (Needs.of text).form = .tripleLiteral) :
    (∀ char ∈ text, isPlain char = true ∨ char = '\n') ∧
      ∀ earlier later, text ≠ earlier ++ (tripleApostrophe ++ later) := by
  have known : (Needs.of text).control = false ∧ (Needs.of text).apostrophes ≤ 2 := by
    grind [Needs.form]
  obtain ⟨uncontrolled, few⟩ := known
  exact ⟨fun char within => isPlain_or_break (uncontrolled_of_any uncontrolled char within),
    loose_of_longestRun_le few⟩

/-! ### Any text -/

/-- The break that opens a triple form is dropped, and nothing else is. -/
theorem dropBreak_opening {newline : Bool} {written : List Char}
    (opened : newline = false → ∀ char, written.head? = some char → char ≠ '\n' ∧ char ≠ '\r') :
    dropBreak (opening newline ++ written) = written := by
  cases newline with
  | true => rfl
  | false =>
      cases written with
      | nil => rfl
      | cons char rest =>
          obtain ⟨noBreak, noReturn⟩ := opened rfl char rfl
          rw [opening, if_neg (by decide), List.nil_append, dropBreak]
          all_goals simp_all

/-- What is written for a character is no bare line break, unless it is one. -/
theorem Spelled.head_ne_break {char : Char} {written : List Char}
    (spelled : Spelled true char written) (noBreak : char ≠ '\n') :
    ∃ head tail, written = head :: tail ∧ head ≠ '\n' ∧ head ≠ '\r' := by
  cases spelled with
  | short | coded => exact ⟨_, _, rfl, by decide⟩
  | broken allowed isBreak => exact absurd isBreak noBreak
  | plain isPlain =>
      refine ⟨_, _, rfl, noBreak, ?_⟩
      rintro rfl
      cases isPlain

private theorem head_escaped_ne_break (unbroken : ∀ char ∈ text, char ≠ '\n') (rest : List Char) :
    ∀ char, (escaped true 2 0 text ++ (tripleQuote ++ rest)).head? = some char →
      char ≠ '\n' ∧ char ≠ '\r' := by
  intro char first
  cases text with
  | nil =>
      cases Option.some.inj first
      decide
  | cons start more =>
      by_cases quote : start = '"'
      · rw [escaped, if_pos quote, if_pos (by decide)] at first
        cases Option.some.inj first
        decide
      · obtain ⟨head, tail, written, noBreak, noReturn⟩ :=
          (spelled_escapedChar true quote).head_ne_break (unbroken start List.mem_cons_self)
        rw [escaped, if_neg quote, written] at first
        cases Option.some.inj first
        exact ⟨noBreak, noReturn⟩

private theorem string?_quote {rest : List Char} (apart : ∀ more, rest ≠ '"' :: '"' :: more) :
    string? ('"' :: rest) = quotedRest rest := by
  rw [string?]
  all_goals simp_all

private theorem string?_apostrophe {rest : List Char}
    (apart : ∀ more, rest ≠ '\'' :: '\'' :: more) :
    string? ('\'' :: rest) = literalRest rest := by
  rw [string?]
  all_goals simp_all

private theorem string?_quoted (text : List Char) {rest : List Char}
    (after : rest.head? ≠ some '"') :
    string? ('"' :: (escaped false 0 0 text ++ '"' :: rest)) = some (text, rest) := by
  rw [string?_quote, quotedRest_escaped]
  rintro more same
  cases text with
  | nil =>
      rw [escaped, List.nil_append] at same
      rw [(List.cons.inj same).2] at after
      exact after rfl
  | cons char others =>
      obtain ⟨head, tail, written, different⟩ :=
        @escaped_apart false 0 0 char others (.inr (Nat.le_refl 0))
      rw [written] at same
      exact different (List.cons.inj same).1

private theorem string?_literal {rest : List Char} (after : rest.head? ≠ some '\'')
    (literal : ∀ char ∈ text, isPlain char = true ∧ char ≠ '\'') :
    string? ('\'' :: (text ++ '\'' :: rest)) = some (text, rest) := by
  rw [string?_apostrophe, literalRest_append rest literal]
  rintro more same
  cases text with
  | nil =>
      rw [List.nil_append] at same
      rw [(List.cons.inj same).2] at after
      exact after rfl
  | cons char others => exact (literal char List.mem_cons_self).2 (List.cons.inj same).1

private theorem string?_tripleQuoted (text : List Char) {rest : List Char}
    (after : rest.head? ≠ some '"') :
    string? (tripleQuote ++
      (opening (Needs.of text).newline ++ (escaped true 2 0 text ++ (tripleQuote ++ rest)))) =
      some (text, rest) := by
  have opened : dropBreak (opening (Needs.of text).newline ++
      (escaped true 2 0 text ++ (tripleQuote ++ rest))) =
      escaped true 2 0 text ++ (tripleQuote ++ rest) :=
    dropBreak_opening fun unbroken => head_escaped_ne_break (ne_break_of_newline unbroken) rest
  rw [show tripleQuote = '"' :: '"' :: '"' :: [] from rfl, List.cons_append, List.cons_append,
    List.cons_append, List.nil_append, string?]
  exact (congrArg (tripleQuotedRest false) opened).trans
    (tripleQuotedRest_escaped after text (Nat.zero_le 2))

private theorem string?_tripleLiteral {rest : List Char} (after : rest.head? ≠ some '\'')
    (literal : ∀ char ∈ text, isPlain char = true ∨ char = '\n')
    (loose : ∀ earlier later, text ≠ earlier ++ (tripleApostrophe ++ later)) :
    string? (tripleApostrophe ++
      (opening (Needs.of text).newline ++ (text ++ (tripleApostrophe ++ rest)))) =
      some (text, rest) := by
  have opened : dropBreak (opening (Needs.of text).newline ++
      (text ++ (tripleApostrophe ++ rest))) = text ++ (tripleApostrophe ++ rest) := by
    refine dropBreak_opening fun unbroken char first => ?_
    cases text with
    | nil =>
        cases Option.some.inj first
        decide
    | cons start more =>
        cases Option.some.inj first
        refine ⟨ne_break_of_newline unbroken char List.mem_cons_self, ?_⟩
        rintro rfl
        exact absurd (literal _ List.mem_cons_self) (by decide)
  rw [show tripleApostrophe = '\'' :: '\'' :: '\'' :: [] from rfl, List.cons_append,
    List.cons_append, List.cons_append, List.nil_append, string?]
  exact (congrArg tripleLiteralRest opened).trans
    (tripleLiteralRest_append after text literal loose)

/-- A string is read back whatever form it was given. -/
theorem string?_quotedText (text : List Char) {rest : List Char}
    (noQuote : rest.head? ≠ some '"') (noApostrophe : rest.head? ≠ some '\'') :
    string? (quotedText text ++ rest) = some (text, rest) := by
  cases form : (Needs.of text).form with
  | quoted =>
      simpa only [quotedText, form, List.cons_append, List.append_assoc, List.nil_append] using
        string?_quoted text noQuote
  | literal =>
      simpa only [quotedText, form, List.cons_append, List.append_assoc, List.nil_append] using
        string?_literal noApostrophe (plain_of_literal form)
  | tripleQuoted =>
      simpa only [quotedText, form, tripleQuote, List.append_assoc] using
        string?_tripleQuoted text noQuote
  | tripleLiteral =>
      obtain ⟨literal, loose⟩ := plain_of_tripleLiteral form
      simpa only [quotedText, form, tripleApostrophe, List.append_assoc] using
        string?_tripleLiteral noApostrophe literal loose

end FloodMesh.Toml
