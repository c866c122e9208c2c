import Mathlib.Data.List.TakeWhile
import NavBim.ArrayParser

namespace NavBim.ArrayParser

open BracketTables

/-!
# What the array parser accepts

The documented text is one table of numbers in brackets, with blanks, tabs and
commas in between.  The parser accepts any number of tables, also none at all, and
before a number it leaves out all white space of the stream.
-/

variable {α : Type}

/-! ## The syntax -/

def IsSeparator (char : Char) : Prop :=
  char = ',' ∨ char = ' ' ∨ char = '\t'

instance (char : Char) : Decidable (IsSeparator char) :=
  inferInstanceAs (Decidable (_ ∨ _ ∨ _))

/-- The tokens of a text.  Separators are left out everywhere, and before a number
also some characters are skipped. -/
inductive Lexes
    (reader : FloatReader α)
    (Skips : Char → Prop) : List Char → List (Token α) → Prop where
  | done : Lexes reader Skips [] []
  | separator {char : Char} {text : List Char} {tokens : List (Token α)} :
      IsSeparator char →
      Lexes reader Skips text tokens →
      Lexes reader Skips (char :: text) tokens
  | opens {text : List Char} {tokens : List (Token α)} :
      Lexes reader Skips text tokens →
      Lexes reader Skips ('[' :: text) (.opens :: tokens)
  | closes {text : List Char} {tokens : List (Token α)} :
      Lexes reader Skips text tokens →
      Lexes reader Skips (']' :: text) (.closes :: tokens)
  | number {space text rest : List Char} {value : α} {tokens : List (Token α)} :
      (∀ char ∈ space, Skips char) →
      reader.read text = some (value, rest) →
      Lexes reader Skips rest tokens →
      Lexes reader Skips (space ++ text) (.item value :: tokens)

/-- One table, and nothing is skipped. -/
def Documented
    (reader : FloatReader α)
    (input : List Char)
    (rows : List (List α)) : Prop :=
  Lexes reader (fun _ => False) input (tableTokens rows)

/-- Any number of tables, and white space is skipped before numbers. -/
def Tolerated
    (reader : FloatReader α)
    (input : List Char)
    (tables : List (List (List α))) : Prop :=
  Lexes reader IsSpace input (textTokens tables)

/-- White space that is no separator. -/
def IsOtherSpace (char : Char) : Prop :=
  IsSpace char ∧ ¬IsSeparator char

/-- The parser ends, it accepts the text if it is documented and no other one, and
then the result is what the text denotes. -/
def ParsesExactly
    (reader : FloatReader α)
    (input : List Char) : Prop :=
  ∃ fuel outcome, parseVVF reader input fuel = some outcome ∧
    (outcome.errorReturn = "" ↔ ∃ rows, Documented reader input rows) ∧
    ∀ rows, Documented reader input rows → outcome.result = rows

/-! ## Tokens from the front -/

section Front

variable {reader : FloatReader α} {Skips : Char → Prop} {char : Char}
  {text rest : List Char} {value : α} {tokens : List (Token α)}

/-- A number does not begin with a delimiter. -/
theorem FloatReader.head_of_read
    (isRead : reader.read (char :: text) = some (value, rest)) :
    ¬IsDelimiter char := by
  obtain ⟨word, notEmpty, inside, isText⟩ := reader.takes isRead
  cases word with
  | nil => exact absurd rfl notEmpty
  | cons first others =>
      cases isText
      exact inside char List.mem_cons_self

theorem FloatReader.read_nil (reader : FloatReader α) :
    reader.read [] = none := by
  cases isRead : reader.read [] with
  | none => rfl
  | some found =>
      obtain ⟨value, rest⟩ := found
      obtain ⟨word, notEmpty, -, isText⟩ := reader.takes isRead
      exact absurd (List.append_eq_nil_iff.mp isText.symm).1 notEmpty

theorem FloatReader.length_of_read
    (isRead : reader.read text = some (value, rest)) :
    rest.length < text.length := by
  obtain ⟨word, notEmpty, -, rfl⟩ := reader.takes isRead
  rw [List.length_append]
  exact Nat.lt_add_of_pos_left (List.length_pos_iff.mpr notEmpty)

theorem FloatReader.length_of_extract
    (isRead : reader.extract text = some (value, rest)) :
    rest.length < text.length :=
  Nat.lt_of_lt_of_le (reader.length_of_read isRead)
    (List.dropWhile_sublist _).length_le

/-- White space before a number is what the stream leaves out. -/
theorem FloatReader.extract_append
    {space : List Char}
    (allSpace : ∀ char ∈ space, IsSpace char)
    (isRead : reader.read text = some (value, rest)) :
    reader.extract (space ++ text) = some (value, rest) := by
  rw [FloatReader.extract, List.dropWhile_append_of_pos]
  · cases text with
    | nil => exact absurd isRead (by simp [reader.read_nil])
    | cons char text =>
        have noSpace : ¬IsSpace char := fun isSpace =>
          reader.head_of_read isRead (Or.inl isSpace)
        rw [List.dropWhile_cons_of_neg (by simpa using noSpace)]
        exact isRead
  · intro char isIn
    simpa using allSpace char isIn

theorem isDelimiter_of_isSeparator
    (isSeparator : IsSeparator char) :
    IsDelimiter char := by
  rcases isSeparator with isComma | isBlank | isTab
  · exact Or.inr (Or.inl isComma)
  · exact Or.inl (Or.inl isBlank)
  · exact Or.inl (Or.inr (Or.inl isTab))

/-- The four ways in which a text goes on. -/
theorem Lexes.front
    (lexes : Lexes reader Skips (char :: text) tokens) :
    (IsSeparator char ∧ Lexes reader Skips text tokens) ∨
    (char = '[' ∧ ∃ more, tokens = .opens :: more ∧
      Lexes reader Skips text more) ∨
    (char = ']' ∧ ∃ more, tokens = .closes :: more ∧
      Lexes reader Skips text more) ∨
    ∃ space word value rest more, space ++ word = char :: text ∧
      (∀ char ∈ space, Skips char) ∧ reader.read word = some (value, rest) ∧
      tokens = .item value :: more ∧ Lexes reader Skips rest more := by
  generalize isWhole : char :: text = whole at lexes
  cases lexes with
  | done => cases isWhole
  | separator isSeparator lexes =>
      cases isWhole
      exact Or.inl ⟨isSeparator, lexes⟩
  | opens lexes =>
      cases isWhole
      exact Or.inr (Or.inl ⟨rfl, _, rfl, lexes⟩)
  | closes lexes =>
      cases isWhole
      exact Or.inr (Or.inr (Or.inl ⟨rfl, _, rfl, lexes⟩))
  | number skipped isRead lexes =>
      exact Or.inr (Or.inr (Or.inr
        ⟨_, _, _, _, _, rfl, skipped, isRead, rfl, lexes⟩))

theorem lexes_nil_iff :
    Lexes reader Skips [] tokens ↔ tokens = [] := by
  constructor
  · intro lexes
    generalize isWhole : ([] : List Char) = whole at lexes
    cases lexes with
    | done => rfl
    | separator isSeparator lexes => cases isWhole
    | opens lexes => cases isWhole
    | closes lexes => cases isWhole
    | number skipped isRead lexes =>
        obtain ⟨-, noText⟩ := List.append_eq_nil_iff.mp isWhole.symm
        rw [noText, reader.read_nil] at isRead
        cases isRead
  · rintro rfl
    exact .done

/-- A delimiter at the front of a number is skipped. -/
theorem FloatReader.skip_of_isDelimiter
    {space word : List Char}
    (isText : space ++ word = char :: text)
    (isRead : reader.read word = some (value, rest))
    (isDelimiter : IsDelimiter char) :
    ∃ others, space = char :: others ∧ others ++ word = text := by
  cases space with
  | nil =>
      cases isText
      exact absurd isDelimiter (reader.head_of_read isRead)
  | cons first others =>
      cases isText
      exact ⟨others, rfl, rfl⟩

theorem lexes_separator_iff
    (isSeparator : IsSeparator char) :
    Lexes reader Skips (char :: text) tokens ↔
      Lexes reader Skips text tokens := by
  have isDelimiter := isDelimiter_of_isSeparator isSeparator
  constructor
  · intro lexes
    rcases lexes.front with ⟨-, later⟩ | ⟨rfl, -⟩ | ⟨rfl, -⟩ |
      ⟨space, word, value, rest, more, isText, skipped, isRead, rfl, later⟩
    · exact later
    · exact absurd isSeparator (by decide)
    · exact absurd isSeparator (by decide)
    · obtain ⟨others, rfl, rfl⟩ :=
        reader.skip_of_isDelimiter isText isRead isDelimiter
      exact .number (fun char isIn =>
        skipped char (List.mem_cons_of_mem _ isIn)) isRead later
  · exact .separator isSeparator

theorem lexes_opens_iff
    (noSkip : ¬Skips '[') :
    Lexes reader Skips ('[' :: text) tokens ↔
      ∃ more, tokens = .opens :: more ∧ Lexes reader Skips text more := by
  constructor
  · intro lexes
    rcases lexes.front with ⟨isSeparator, -⟩ | ⟨-, later⟩ | ⟨isClose, -⟩ |
      ⟨space, word, value, rest, more, isText, skipped, isRead, -, -⟩
    · exact absurd isSeparator (by decide)
    · exact later
    · exact absurd isClose (by decide)
    · obtain ⟨others, rfl, -⟩ :=
        reader.skip_of_isDelimiter isText isRead (by decide)
      exact absurd (skipped '[' List.mem_cons_self) noSkip
  · rintro ⟨more, rfl, later⟩
    exact .opens later

theorem lexes_closes_iff
    (noSkip : ¬Skips ']') :
    Lexes reader Skips (']' :: text) tokens ↔
      ∃ more, tokens = .closes :: more ∧ Lexes reader Skips text more := by
  constructor
  · intro lexes
    rcases lexes.front with ⟨isSeparator, -⟩ | ⟨isOpen, -⟩ | ⟨-, later⟩ |
      ⟨space, word, value, rest, more, isText, skipped, isRead, -, -⟩
    · exact absurd isSeparator (by decide)
    · exact absurd isOpen (by decide)
    · exact later
    · obtain ⟨others, rfl, -⟩ :=
        reader.skip_of_isDelimiter isText isRead (by decide)
      exact absurd (skipped ']' List.mem_cons_self) noSkip
  · rintro ⟨more, rfl, later⟩
    exact .closes later

/-- What is no separator and no bracket begins a number for the stream. -/
theorem lexes_number_iff
    (noSeparator : ¬IsSeparator char)
    (noOpen : char ≠ '[')
    (noClose : char ≠ ']') :
    Lexes reader IsSpace (char :: text) tokens ↔
      ∃ value rest more, reader.extract (char :: text) = some (value, rest) ∧
        tokens = .item value :: more ∧ Lexes reader IsSpace rest more := by
  constructor
  · intro lexes
    rcases lexes.front with ⟨isSeparator, -⟩ | ⟨isOpen, -⟩ | ⟨isClose, -⟩ |
      ⟨space, word, value, rest, more, isText, skipped, isRead, rfl, later⟩
    · exact absurd isSeparator noSeparator
    · exact absurd isOpen noOpen
    · exact absurd isClose noClose
    · rw [← isText]
      exact ⟨value, rest, more, reader.extract_append skipped isRead, rfl, later⟩
  · rintro ⟨value, rest, more, isRead, rfl, later⟩
    have isText := List.takeWhile_append_dropWhile
      (p := fun char => decide (IsSpace char)) (l := char :: text)
    rw [← isText]
    refine .number ?_ isRead later
    intro other isIn
    simpa using List.mem_takeWhile_imp isIn

end Front

/-! ## What the loop has read -/

/-- The rest of a text leads to the end of these tables. -/
def Completes
    (reader : FloatReader α)
    (progress : Progress α)
    (text : List Char)
    (tables : List (List (List α))) : Prop :=
  ∃ tokens, Lexes reader IsSpace text tokens ∧
    progress.run tokens = some (.outside tables)

/-- The variables of the loop after what has been read. -/
def Represents (state : ParseState α) : Progress α → Prop
  | .outside tables => state.depth = 0 ∧ state.result = tables.flatten
  | .inTable tables rows =>
      state.depth = 1 ∧ state.result = tables.flatten ++ rows
  | .inRow tables rows items =>
      state.depth = 2 ∧ state.result = tables.flatten ++ rows ∧
        state.currentVector = items

section Completing

variable {reader : FloatReader α} {progress : Progress α} {char : Char}
  {text : List Char} {tables : List (List (List α))}

theorem completes_nil_iff :
    Completes reader progress [] tables ↔ progress = .outside tables := by
  constructor
  · rintro ⟨tokens, lexes, goes⟩
    rw [lexes_nil_iff.mp lexes] at goes
    exact Option.some.inj goes
  · rintro rfl
    exact ⟨[], .done, rfl⟩

theorem completes_separator_iff
    (isSeparator : IsSeparator char) :
    Completes reader progress (char :: text) tables ↔
      Completes reader progress text tables := by
  unfold Completes
  simp only [lexes_separator_iff isSeparator]

/-- A token is read if it is in its place. -/
theorem run_cons_iff
    {token : Token α}
    {tokens : List (Token α)} :
    progress.run (token :: tokens) = some (.outside tables) ↔
      ∃ later, progress.next token = some later ∧
        later.run tokens = some (.outside tables) :=
  Option.bind_eq_some_iff

theorem completes_opens_iff :
    Completes reader progress ('[' :: text) tables ↔
      ∃ later, progress.next .opens = some later ∧
        Completes reader later text tables := by
  constructor
  · rintro ⟨tokens, lexes, goes⟩
    obtain ⟨more, rfl, rest⟩ := (lexes_opens_iff (by decide)).mp lexes
    obtain ⟨later, steps, onwards⟩ := run_cons_iff.mp goes
    exact ⟨later, steps, more, rest, onwards⟩
  · rintro ⟨later, steps, more, rest, onwards⟩
    exact ⟨_, .opens rest, run_cons_iff.mpr ⟨later, steps, onwards⟩⟩

theorem completes_closes_iff :
    Completes reader progress (']' :: text) tables ↔
      ∃ later, progress.next .closes = some later ∧
        Completes reader later text tables := by
  constructor
  · rintro ⟨tokens, lexes, goes⟩
    obtain ⟨more, rfl, rest⟩ := (lexes_closes_iff (by decide)).mp lexes
    obtain ⟨later, steps, onwards⟩ := run_cons_iff.mp goes
    exact ⟨later, steps, more, rest, onwards⟩
  · rintro ⟨later, steps, more, rest, onwards⟩
    exact ⟨_, .closes rest, run_cons_iff.mpr ⟨later, steps, onwards⟩⟩

theorem completes_number_iff
    (noSeparator : ¬IsSeparator char)
    (noOpen : char ≠ '[')
    (noClose : char ≠ ']') :
    Completes reader progress (char :: text) tables ↔
      ∃ value rest later, reader.extract (char :: text) = some (value, rest) ∧
        progress.next (.item value) = some later ∧
        Completes reader later rest tables := by
  constructor
  · rintro ⟨tokens, lexes, goes⟩
    obtain ⟨value, rest, more, isRead, rfl, lexesRest⟩ :=
      (lexes_number_iff noSeparator noOpen noClose).mp lexes
    obtain ⟨later, steps, onwards⟩ := run_cons_iff.mp goes
    exact ⟨value, rest, later, isRead, steps, more, lexesRest, onwards⟩
  · rintro ⟨value, rest, later, isRead, steps, more, lexesRest, onwards⟩
    have lexes := (lexes_number_iff noSeparator noOpen noClose).mpr
      ⟨value, rest, more, isRead, rfl, lexesRest⟩
    exact ⟨_, lexes, run_cons_iff.mpr ⟨later, steps, onwards⟩⟩

end Completing

/-! ## One pass -/

/-- What a pass does.  Before the end it reads something, and then the same tables
are left to complete. -/
inductive Passes
    (reader : FloatReader α)
    (state : ParseState α)
    (progress : Progress α) : Except String (ParseState α) → Prop where
  | refused {message : String} :
      message ≠ "" →
      (∀ tables, ¬Completes reader progress state.text tables) →
      Passes reader state progress (.error message)
  | failed {later : ParseState α} :
      later.fail = true →
      later.depth ≠ 0 →
      (∀ tables, ¬Completes reader progress state.text tables) →
      Passes reader state progress (.ok later)
  | reads {later : ParseState α} {further : Progress α} :
      Represents later further →
      (∀ tables, Completes reader progress state.text tables ↔
        Completes reader further later.text tables) →
      later.fail = state.fail →
      (later.eof = true ∧ later.text = [] ∨
        later.eof = false ∧ later.text.length < state.text.length) →
      Passes reader state progress (.ok later)

section Pass

variable {reader : FloatReader α} {state : ParseState α}
  {progress : Progress α} {char : Char} {rest : List Char}

section

variable
  (represents : Represents state progress)

include represents

theorem passes_opens
    (notEnded : state.eof = false)
    (isText : state.text = '[' :: rest) :
    Passes reader state progress (parsePass reader state) := by
  have shorter : rest.length < state.text.length := by
    rw [isText]
    exact Nat.lt_succ_self _
  unfold parsePass
  rw [isText]
  dsimp only
  rw [if_pos rfl]
  cases progress with
  | outside tables =>
      obtain ⟨isDepth, isResult⟩ := represents
      rw [if_neg (by omega)]
      have inside : Represents { state with
          text := rest, depth := state.depth + 1, currentVector := [] }
          (.inTable tables []) :=
        ⟨by rw [isDepth]; rfl, by rw [isResult, List.append_nil]⟩
      refine .reads inside ?_ rfl (Or.inr ⟨notEnded, shorter⟩)
      intro all
      rw [isText, completes_opens_iff]
      simp [Progress.next]
  | inTable tables rows =>
      obtain ⟨isDepth, isResult⟩ := represents
      rw [if_neg (by omega)]
      have inside : Represents { state with
          text := rest, depth := state.depth + 1, currentVector := [] }
          (.inRow tables rows []) :=
        ⟨by rw [isDepth]; rfl, isResult, rfl⟩
      refine .reads inside ?_ rfl (Or.inr ⟨notEnded, shorter⟩)
      intro all
      rw [isText, completes_opens_iff]
      simp [Progress.next]
  | inRow tables rows items =>
      obtain ⟨isDepth, -, -⟩ := represents
      rw [if_pos (by omega)]
      refine .refused (by decide) ?_
      intro all
      rw [isText, completes_opens_iff]
      simp [Progress.next]

theorem passes_closes
    (notEnded : state.eof = false)
    (isText : state.text = ']' :: rest) :
    Passes reader state progress (parsePass reader state) := by
  have shorter : rest.length < state.text.length := by
    rw [isText]
    exact Nat.lt_succ_self _
  unfold parsePass
  rw [isText]
  dsimp only
  rw [if_neg (by decide), if_pos rfl]
  cases progress with
  | outside tables =>
      obtain ⟨isDepth, -⟩ := represents
      rw [if_pos (by omega)]
      refine .refused (by decide) ?_
      intro all
      rw [isText, completes_closes_iff]
      simp [Progress.next]
  | inTable tables rows =>
      obtain ⟨isDepth, isResult⟩ := represents
      rw [if_neg (by omega), if_neg (by omega)]
      have outside : Represents { state with
          text := rest, depth := state.depth - 1, result := state.result }
          (.outside (tables ++ [rows])) :=
        ⟨by rw [isDepth]; rfl, by simp [isResult]⟩
      refine .reads outside ?_ rfl (Or.inr ⟨notEnded, shorter⟩)
      intro all
      rw [isText, completes_closes_iff]
      simp [Progress.next]
  | inRow tables rows items =>
      obtain ⟨isDepth, isResult, isCurrent⟩ := represents
      rw [if_neg (by omega), if_pos (by omega)]
      have outside : Represents { state with
          text := rest, depth := state.depth - 1,
          result := state.result ++ [state.currentVector] }
          (.inTable tables (rows ++ [items])) :=
        ⟨by rw [isDepth]; rfl, by simp [isResult, isCurrent]⟩
      refine .reads outside ?_ rfl (Or.inr ⟨notEnded, shorter⟩)
      intro all
      rw [isText, completes_closes_iff]
      simp [Progress.next]

theorem passes_separator
    (notEnded : state.eof = false)
    (isText : state.text = char :: rest)
    (isSeparator : IsSeparator char) :
    Passes reader state progress (parsePass reader state) := by
  have shorter : rest.length < state.text.length := by
    rw [isText]
    exact Nat.lt_succ_self _
  have noOpen : char ≠ '[' := by
    rintro rfl
    exact absurd isSeparator (by decide)
  have noClose : char ≠ ']' := by
    rintro rfl
    exact absurd isSeparator (by decide)
  have separates : char = ',' ∨ char = ' ' ∨ char = '\t' := isSeparator
  unfold parsePass
  rw [isText]
  dsimp only
  rw [if_neg noOpen, if_neg noClose, if_pos separates]
  have same : Represents { state with text := rest } progress := by
    cases progress with
    | outside tables => exact represents
    | inTable tables rows => exact represents
    | inRow tables rows items => exact represents
  refine .reads same ?_ rfl (Or.inr ⟨notEnded, shorter⟩)
  intro all
  rw [isText, completes_separator_iff isSeparator]

theorem Represents.depth_eq_two
    {value : α}
    {later : Progress α}
    (steps : progress.next (.item value) = some later) :
    state.depth = 2 := by
  cases progress with
  | outside tables => cases steps
  | inTable tables rows => cases steps
  | inRow tables rows items => exact represents.1

theorem Represents.exists_row
    (isDepth : state.depth = 2) :
    ∃ tables rows, state.result = tables.flatten ++ rows ∧
      progress = .inRow tables rows state.currentVector := by
  cases progress with
  | outside tables => exact absurd (represents.1.symm.trans isDepth) (by decide)
  | inTable tables rows =>
      exact absurd (represents.1.symm.trans isDepth) (by decide)
  | inRow tables rows items =>
      obtain ⟨-, isResult, rfl⟩ := represents
      exact ⟨tables, rows, isResult, rfl⟩

theorem passes_number
    (isText : state.text = char :: rest)
    (noSeparator : ¬IsSeparator char)
    (noOpen : char ≠ '[')
    (noClose : char ≠ ']') :
    Passes reader state progress (parsePass reader state) := by
  have noneSeparates : ¬(char = ',' ∨ char = ' ' ∨ char = '\t') := noSeparator
  unfold parsePass
  rw [isText]
  dsimp only
  rw [if_neg noOpen, if_neg noClose, if_neg noneSeparates]
  by_cases isDepth : state.depth = 2
  · rw [if_neg (not_not.mpr isDepth)]
    cases isRead : reader.extract (char :: rest) with
    | none =>
        refine .failed rfl (by dsimp only; omega) ?_
        intro all completes
        rw [isText] at completes
        obtain ⟨value, left, later, isOther, -⟩ :=
          (completes_number_iff noSeparator noOpen noClose).mp completes
        cases isRead.symm.trans isOther
    | some found =>
        obtain ⟨value, left⟩ := found
        obtain ⟨tables, rows, isResult, rfl⟩ := represents.exists_row isDepth
        have grown : Represents { state with
            text := left, eof := left.isEmpty,
            currentVector := state.currentVector ++ [value] }
            (.inRow tables rows (state.currentVector ++ [value])) :=
          ⟨isDepth, isResult, rfl⟩
        refine .reads grown ?_ rfl ?_
        · intro all
          rw [isText, completes_number_iff noSeparator noOpen noClose, isRead]
          simp [Progress.next]
        · cases left with
          | nil => exact Or.inl ⟨rfl, rfl⟩
          | cons first others =>
              have shorter := reader.length_of_extract isRead
              rw [← isText] at shorter
              exact Or.inr ⟨rfl, shorter⟩
  · rw [if_pos isDepth]
    refine .refused (by simp) ?_
    intro all completes
    rw [isText] at completes
    obtain ⟨value, left, later, -, steps, -⟩ :=
      (completes_number_iff noSeparator noOpen noClose).mp completes
    exact isDepth (represents.depth_eq_two steps)

theorem passes_parsePass
    (notEnded : state.eof = false) :
    Passes reader state progress (parsePass reader state) := by
  cases isText : state.text with
  | nil =>
      have ended : Represents { state with eof := true } progress := by
        cases progress with
        | outside tables => exact represents
        | inTable tables rows => exact represents
        | inRow tables rows items => exact represents
      unfold parsePass
      rw [isText]
      dsimp only
      refine .reads ended ?_ rfl (Or.inl ⟨rfl, rfl⟩)
      intro all
      rw [isText]
  | cons char rest =>
      by_cases isOpen : char = '['
      · cases isOpen
        exact passes_opens represents notEnded isText
      · by_cases isClose : char = ']'
        · cases isClose
          exact passes_closes represents notEnded isText
        · by_cases isSeparator : IsSeparator char
          · exact passes_separator represents notEnded isText isSeparator
          · exact passes_number represents isText isSeparator isOpen isClose

end

end Pass

/-! ## The whole loop -/

/-- The outcome accepts what leads to the end of some tables, and it is these. -/
structure Answers
    (reader : FloatReader α)
    (progress : Progress α)
    (text : List Char)
    (outcome : Outcome α) : Prop where
  accepts : outcome.errorReturn = "" ↔
    ∃ tables, Completes reader progress text tables
  result : ∀ tables, Completes reader progress text tables →
    outcome.result = tables.flatten

variable
  {fuel : Nat}

section Loop

variable {reader : FloatReader α} {state : ParseState α}
  {progress : Progress α} {text : List Char} {outcome : Outcome α}

theorem Answers.of_error
    (isError : outcome.errorReturn ≠ "")
    (none : ∀ tables, ¬Completes reader progress text tables) :
    Answers reader progress text outcome where
  accepts := iff_of_false isError fun ⟨tables, completes⟩ =>
    none tables completes
  result tables completes := absurd completes (none tables)

theorem Answers.of_iff
    {later : Progress α}
    {rest : List Char}
    (answers : Answers reader later rest outcome)
    (same : ∀ tables, Completes reader progress text tables ↔
      Completes reader later rest tables) :
    Answers reader progress text outcome where
  accepts := answers.accepts.trans (exists_congr fun tables =>
    (same tables).symm)
  result tables completes := answers.result tables ((same tables).mp completes)

theorem errorReturn_finish
    (isOpen : state.depth ≠ 0) :
    (finish state).errorReturn ≠ "" := by
  unfold finish
  dsimp only
  rw [if_pos isOpen]
  decide

/-- At the end of the text the depth tells whether all brackets are closed. -/
theorem answers_finish
    (represents : Represents state progress) :
    Answers reader progress [] (finish state) := by
  cases progress with
  | outside tables =>
      obtain ⟨isDepth, isResult⟩ := represents
      constructor
      · refine iff_of_true ?_ ⟨tables, completes_nil_iff.mpr rfl⟩
        exact if_neg (not_not.mpr isDepth)
      · intro all completes
        cases completes_nil_iff.mp completes
        exact isResult
  | inTable tables rows =>
      apply Answers.of_error
      · apply errorReturn_finish
        rw [represents.1]
        decide
      · intro all completes
        cases completes_nil_iff.mp completes
  | inRow tables rows items =>
      apply Answers.of_error
      · apply errorReturn_finish
        rw [represents.1]
        decide
      · intro all completes
        cases completes_nil_iff.mp completes

theorem parseLoop_answers
    (represents : Represents state progress)
    (notFailed : state.fail = false)
    (ended : state.eof = true → state.text = [])
    (isOutcome : parseLoop reader fuel state = some outcome) :
    Answers reader progress state.text outcome := by
  induction fuel generalizing state progress with
  | zero => cases isOutcome
  | succ fuel inductionHypothesis =>
      unfold parseLoop at isOutcome
      by_cases isEnded : state.eof = true
      · rw [if_pos (Or.inr isEnded)] at isOutcome
        cases isOutcome
        rw [ended isEnded]
        exact answers_finish represents
      · rw [notFailed, if_neg (by simpa using isEnded)] at isOutcome
        have passes := @passes_parsePass _ reader _ _ represents
          (Bool.eq_false_iff.mpr isEnded)
        generalize parsePass reader state = pass at passes isOutcome
        cases passes with
        | refused isError none =>
            cases isOutcome
            exact .of_error isError none
        | @failed later failed isOpen none =>
            cases fuel with
            | zero => cases isOutcome
            | succ fuel =>
                dsimp only at isOutcome
                rw [parseLoop, if_pos (Or.inl failed)] at isOutcome
                cases isOutcome
                exact .of_error (errorReturn_finish isOpen) none
        | reads onwards same sameFail rests =>
            have answers := inductionHypothesis onwards
              (sameFail.trans notFailed) ?_ isOutcome
            · exact answers.of_iff same
            · intro isEnd
              rcases rests with ⟨-, atEnd⟩ | ⟨goesOn, -⟩
              · exact atEnd
              · exact absurd (isEnd.symm.trans goesOn) (by decide)

theorem parseLoop_of_ended
    (isEnded : state.fail = true ∨ state.eof = true)
    (fuel : Nat) :
    parseLoop reader (fuel + 1) state = some (finish state) := by
  rw [parseLoop, if_pos isEnded]

theorem parseLoop_ends_of_shorter
    (represents : Represents state progress)
    (notEnded : state.eof = false)
    (shorter : ∀ later further, Represents later further →
      later.eof = false → later.text.length < state.text.length →
        ∃ outcome, parseLoop reader (fuel + 1) later = some outcome) :
    ∃ outcome, parseLoop reader (fuel + 2) state = some outcome := by
  by_cases isEnded : state.fail = true ∨ state.eof = true
  · exact ⟨_, parseLoop_of_ended isEnded _⟩
  · rw [parseLoop, if_neg isEnded]
    have passes := @passes_parsePass _ reader _ _ represents notEnded
    generalize parsePass reader state = pass at passes
    cases passes with
    | refused isError none => exact ⟨_, rfl⟩
    | failed failed isOpen none =>
        exact ⟨_, parseLoop_of_ended (Or.inl failed) fuel⟩
    | @reads later further onwards same sameFail rests =>
        rcases rests with ⟨isEnd, -⟩ | ⟨goesOn, less⟩
        · exact ⟨_, parseLoop_of_ended (Or.inr isEnd) fuel⟩
        · exact shorter later further onwards goesOn less

theorem parseLoop_ends
    {bound : Nat}
    (represents : Represents state progress)
    (notEnded : state.eof = false)
    (short : state.text.length ≤ bound) :
    ∃ outcome, parseLoop reader (bound + 2) state = some outcome := by
  induction bound generalizing state progress with
  | zero =>
      apply parseLoop_ends_of_shorter represents notEnded
      intro later further _ _ less
      exact absurd (Nat.lt_of_lt_of_le less short) (Nat.not_lt_zero _)
  | succ bound inductionHypothesis =>
      apply parseLoop_ends_of_shorter represents notEnded
      intro later further onwards goesOn less
      exact inductionHypothesis onwards goesOn
        (Nat.le_of_lt_succ (Nat.lt_of_lt_of_le less short))

end Loop

/-! ## The parser -/

section Parser

variable {reader : FloatReader α} {input : List Char}
  {tables : List (List (List α))}

theorem completes_iff_tolerated :
    Completes reader (.outside []) input tables ↔
      Tolerated reader input tables := by
  unfold Completes Tolerated
  simp only [Progress.run_eq_outside_iff, exists_eq_right]

theorem represents_startParse (input : List Char) :
    Represents (startParse input : ParseState α) (.outside []) :=
  ⟨rfl, rfl⟩

theorem parseVVF_ends
    (reader : FloatReader α)
    (input : List Char) :
    ∃ fuel outcome, parseVVF reader input fuel = some outcome :=
  ⟨_, parseLoop_ends (represents_startParse input) rfl le_rfl⟩

theorem parseVVF_answers
    {outcome : Outcome α}
    (isOutcome : parseVVF reader input fuel = some outcome) :
    (outcome.errorReturn = "" ↔ ∃ tables, Tolerated reader input tables) ∧
      ∀ tables, Tolerated reader input tables →
        outcome.result = tables.flatten := by
  have answers := parseLoop_answers (represents_startParse input) rfl
    (fun ended => nomatch ended) isOutcome
  constructor
  · rw [answers.accepts]
    exact exists_congr fun tables => completes_iff_tolerated
  · intro tables tolerated
    exact answers.result tables (completes_iff_tolerated.mpr tolerated)

/-! ## The documented texts -/

theorem Lexes.separators
    {Skips : Char → Prop}
    {space text : List Char}
    {tokens : List (Token α)}
    (allSeparate : ∀ char ∈ space, IsSeparator char)
    (lexes : Lexes reader Skips text tokens) :
    Lexes reader Skips (space ++ text) tokens := by
  induction space with
  | nil => exact lexes
  | cons char others inductionHypothesis =>
      apply Lexes.separator (allSeparate char List.mem_cons_self)
      apply inductionHypothesis
      intro other isIn
      exact allSeparate other (List.mem_cons_of_mem _ isIn)

section

variable
  {text : List Char}
  {tokens : List (Token α)}

/-- A text where nothing is skipped has no other white space. -/
theorem Lexes.no_otherSpace
    (lexes : Lexes reader (fun _ => False) text tokens) :
    ∀ char ∈ text, ¬IsOtherSpace char := by
  induction lexes with
  | done =>
      intro char isIn
      cases isIn
  | separator isSeparator _ inductionHypothesis =>
      have isNoOther : ¬IsOtherSpace _ := fun isOther => isOther.2 isSeparator
      exact List.forall_mem_cons.mpr ⟨isNoOther, inductionHypothesis⟩
  | opens _ inductionHypothesis =>
      have isNoOther : ¬IsOtherSpace '[' := fun isOther =>
        absurd isOther.1 (by decide)
      exact List.forall_mem_cons.mpr ⟨isNoOther, inductionHypothesis⟩
  | closes _ inductionHypothesis =>
      have isNoOther : ¬IsOtherSpace ']' := fun isOther =>
        absurd isOther.1 (by decide)
      exact List.forall_mem_cons.mpr ⟨isNoOther, inductionHypothesis⟩
  | number skipped isRead _ inductionHypothesis =>
      intro char isIn
      obtain ⟨word, -, inside, rfl⟩ := reader.takes isRead
      cases List.mem_append.mp isIn with
      | inl isSkipped => exact (skipped char isSkipped).elim
      | inr isIn =>
          cases List.mem_append.mp isIn with
          | inl isWord =>
              exact fun isOther => inside char isWord (Or.inl isOther.1)
          | inr later => exact inductionHypothesis char later

theorem Lexes.of_documented
    (lexes : Lexes reader (fun _ => False) text tokens) :
    Lexes reader IsSpace text tokens := by
  induction lexes with
  | done => exact .done
  | separator isSeparator _ inductionHypothesis =>
      exact .separator isSeparator inductionHypothesis
  | opens _ inductionHypothesis => exact .opens inductionHypothesis
  | closes _ inductionHypothesis => exact .closes inductionHypothesis
  | number skipped isRead _ inductionHypothesis =>
      exact .number (fun char isIn => (skipped char isIn).elim) isRead
        inductionHypothesis

/-- Without other white space all that is skipped are separators. -/
theorem Lexes.documented
    (lexes : Lexes reader IsSpace text tokens)
    (noOther : ∀ char ∈ text, ¬IsOtherSpace char) :
    Lexes reader (fun _ => False) text tokens := by
  induction lexes with
  | done => exact .done
  | separator isSeparator _ inductionHypothesis =>
      exact .separator isSeparator
        (inductionHypothesis (List.forall_mem_cons.mp noOther).2)
  | opens _ inductionHypothesis =>
      exact .opens (inductionHypothesis (List.forall_mem_cons.mp noOther).2)
  | closes _ inductionHypothesis =>
      exact .closes (inductionHypothesis (List.forall_mem_cons.mp noOther).2)
  | number skipped isRead _ inductionHypothesis =>
      obtain ⟨noneBefore, noneAfter⟩ := List.forall_mem_append.mp noOther
      obtain ⟨word, -, -, isWord⟩ := reader.takes isRead
      apply Lexes.separators
      · intro char isIn
        by_contra noSeparator
        exact noneBefore char isIn ⟨skipped char isIn, noSeparator⟩
      · have noneLeft : ∀ char ∈ ([] : List Char), False :=
          fun char isIn => nomatch isIn
        refine Lexes.number noneLeft isRead (inductionHypothesis ?_)
        intro char isIn
        apply noneAfter char
        rw [isWord]
        exact List.mem_append_right _ isIn

end

theorem Lexes.number_of_extract
    {char : Char}
    {text rest : List Char}
    {value : α}
    {tokens : List (Token α)}
    (noSeparator : ¬IsSeparator char)
    (noOpen : char ≠ '[')
    (noClose : char ≠ ']')
    (isRead : reader.extract (char :: text) = some (value, rest))
    (lexes : Lexes reader IsSpace (char :: text) tokens) :
    ∃ more, tokens = .item value :: more ∧ Lexes reader IsSpace rest more := by
  obtain ⟨other, left, more, isOther, isToken, later⟩ :=
    (lexes_number_iff noSeparator noOpen noClose).mp lexes
  cases isRead.symm.trans isOther
  exact ⟨more, isToken, later⟩

theorem Lexes.number_of_read
    {space text rest : List Char}
    {value : α}
    {tokens : List (Token α)}
    (allSpace : ∀ char ∈ space, IsSpace char)
    (isRead : reader.read text = some (value, rest))
    (lexes : Lexes reader IsSpace (space ++ text) tokens) :
    ∃ more, tokens = .item value :: more ∧ Lexes reader IsSpace rest more := by
  have extracts := reader.extract_append allSpace isRead
  induction space with
  | nil =>
      cases text with
      | nil => exact absurd isRead (by simp [reader.read_nil])
      | cons char text =>
          have inside := reader.head_of_read isRead
          apply lexes.number_of_extract _ _ _ extracts
          · exact fun isSeparator =>
              inside (isDelimiter_of_isSeparator isSeparator)
          · exact fun isOpen => inside (Or.inr (Or.inr (Or.inl isOpen)))
          · exact fun isClose => inside (Or.inr (Or.inr (Or.inr isClose)))
  | cons char others inductionHypothesis =>
      obtain ⟨isSpace, othersSpace⟩ := List.forall_mem_cons.mp allSpace
      by_cases isSeparator : IsSeparator char
      · exact inductionHypothesis othersSpace
          ((lexes_separator_iff isSeparator).mp lexes)
          (reader.extract_append othersSpace isRead)
      · apply lexes.number_of_extract isSeparator _ _ extracts
        · rintro rfl
          exact absurd isSpace (by decide)
        · rintro rfl
          exact absurd isSpace (by decide)

theorem Lexes.unique
    {text : List Char}
    {first second : List (Token α)}
    (lexes : Lexes reader IsSpace text first)
    (lexesAgain : Lexes reader IsSpace text second) :
    first = second := by
  induction lexes generalizing second with
  | done => exact (lexes_nil_iff.mp lexesAgain).symm
  | separator isSeparator _ inductionHypothesis =>
      exact inductionHypothesis ((lexes_separator_iff isSeparator).mp lexesAgain)
  | opens _ inductionHypothesis =>
      obtain ⟨more, rfl, later⟩ := (lexes_opens_iff (by decide)).mp lexesAgain
      rw [inductionHypothesis later]
  | closes _ inductionHypothesis =>
      obtain ⟨more, rfl, later⟩ := (lexes_closes_iff (by decide)).mp lexesAgain
      rw [inductionHypothesis later]
  | number skipped isRead _ inductionHypothesis =>
      obtain ⟨more, rfl, later⟩ := lexesAgain.number_of_read skipped isRead
      rw [inductionHypothesis later]

theorem Tolerated.unique
    {others : List (List (List α))}
    (tolerated : Tolerated reader input tables)
    (again : Tolerated reader input others) :
    tables = others :=
  textTokens_injective (Lexes.unique tolerated again)

/-- A documented text is tolerated as a single table, without white space that is
no separator. -/
theorem documented_iff
    {rows : List (List α)} :
    Documented reader input rows ↔
      Tolerated reader input [rows] ∧ ∀ char ∈ input, ¬IsOtherSpace char := by
  have isText : textTokens [rows] = tableTokens rows := by
    rw [textTokens, List.flatMap_cons, List.flatMap_nil, List.append_nil]
  unfold Documented Tolerated
  rw [isText]
  constructor
  · intro documented
    exact ⟨documented.of_documented, documented.no_otherSpace⟩
  · rintro ⟨tolerated, noOther⟩
    exact tolerated.documented noOther

/-- A text that is tolerated for another reason than the documentation gives. -/
def OnlyTolerated
    (reader : FloatReader α)
    (input : List Char) : Prop :=
  ∃ tables, Tolerated reader input tables ∧
    (tables.length ≠ 1 ∨ ∃ char ∈ input, IsOtherSpace char)

theorem OnlyTolerated.not_parsesExactly
    (only : OnlyTolerated reader input) :
    ¬ParsesExactly reader input := by
  obtain ⟨tables, tolerated, isOther⟩ := only
  rintro ⟨fuel, outcome, isOutcome, accepts, -⟩
  have accepted := (parseVVF_answers isOutcome).1.mpr ⟨tables, tolerated⟩
  obtain ⟨rows, documented⟩ := accepts.mp accepted
  obtain ⟨single, noOther⟩ := documented_iff.mp documented
  cases isOther with
  | inl notOne =>
      apply notOne
      rw [tolerated.unique single]
      rfl
  | inr hasOther =>
      obtain ⟨char, isIn, isOther⟩ := hasOther
      exact noOther char isIn isOther

/-- The parser accepts exactly the documented texts, unless a text has no table or
several ones, or other white space before a number. -/
theorem parsesExactly_iff
    (reader : FloatReader α)
    (input : List Char) :
    ParsesExactly reader input ↔ ¬OnlyTolerated reader input := by
  constructor
  · intro exactly only
    exact only.not_parsesExactly exactly
  · intro notOnly
    obtain ⟨fuel, outcome, isOutcome⟩ := parseVVF_ends reader input
    obtain ⟨accepts, result⟩ := parseVVF_answers isOutcome
    refine ⟨fuel, outcome, isOutcome, ?_, ?_⟩
    · rw [accepts]
      constructor
      · rintro ⟨tables, tolerated⟩
        unfold OnlyTolerated at notOnly
        push Not at notOnly
        obtain ⟨isOne, noOther⟩ := notOnly tables tolerated
        obtain ⟨rows, rfl⟩ := List.length_eq_one_iff.mp isOne
        exact ⟨rows, documented_iff.mpr ⟨tolerated, noOther⟩⟩
      · rintro ⟨rows, documented⟩
        exact ⟨[rows], (documented_iff.mp documented).1⟩
    · intro rows documented
      rw [result [rows] (documented_iff.mp documented).1, List.flatten_cons,
        List.flatten_nil, List.append_nil]

end Parser

/-! ## Texts that are not documented -/

/-- Whole numbers without a sign, as the stream reads them. -/
def wholeNumbers : FloatReader Nat where
  read text :=
    if text.takeWhile Char.isDigit = [] then
      none
    else
      some
        ((text.takeWhile Char.isDigit).foldl
          (fun value digit => 10 * value + (digit.toNat - '0'.toNat)) 0,
        text.dropWhile Char.isDigit)
  takes := by
    intro text value rest isRead
    split at isRead
    · cases isRead
    · next notEmpty =>
        cases isRead
        refine ⟨text.takeWhile Char.isDigit, notEmpty, ?_,
          List.takeWhile_append_dropWhile.symm⟩
        intro char isIn isDelimiter
        have isDigit := List.mem_takeWhile_imp isIn
        rcases isDelimiter with
          (rfl | rfl | rfl | rfl | rfl | rfl) | rfl | rfl | rfl
        all_goals exact absurd isDigit (by decide)

/-- No table at all, an outer bracket that is opened again, and a new line before a
number. -/
theorem undocumented_texts_accepted :
    ¬ParsesExactly wholeNumbers [] ∧
      ¬ParsesExactly wholeNumbers
        ['[', '[', '1', ']', ']', ' ', '[', '[', '2', ']', ']'] ∧
      ¬ParsesExactly wholeNumbers ['[', '[', '\n', '1', ']', ']'] := by
  have nothing : ∀ char ∈ ([] : List Char), IsSpace char :=
    fun char isIn => nomatch isIn
  have newLine : ∀ char ∈ ['\n'], IsSpace char := by
    intro char isIn
    rw [List.mem_singleton.mp isIn]
    decide
  refine ⟨?_, ?_, ?_⟩
  · apply OnlyTolerated.not_parsesExactly
    exact ⟨[], .done, Or.inl Nat.zero_ne_one⟩
  · apply OnlyTolerated.not_parsesExactly
    refine ⟨[[[1]], [[2]]], ?_, Or.inl (Nat.succ_ne_self 1)⟩
    exact .opens (.opens (.number nothing rfl (.closes (.closes
      (.separator (by decide) (.opens (.opens (.number nothing rfl
        (.closes (.closes .done))))))))))
  · apply OnlyTolerated.not_parsesExactly
    refine ⟨[[[1]]], ?_, Or.inr ⟨'\n', by decide, by decide, by decide⟩⟩
    exact .opens (.opens (.number newLine rfl (.closes (.closes .done))))

end NavBim.ArrayParser
