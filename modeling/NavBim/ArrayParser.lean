import Mathlib.Data.Int.Notation
import NavBim.BracketTables

namespace NavBim.ArrayParser

/-!
# The array parser

Footprints and polygons are written as `[[1.0, 2.0], [3.3, 4.4, 5.5], ...]`.  The
parser reads a stream from the front and counts how many brackets are open.  The
loop ends when the stream has failed or its end was seen.

The stream leaves out white space and then reads a number.  How the number itself
is read is a parameter.
-/

/-- White space of a stream. -/
def IsSpace (char : Char) : Prop :=
  char = ' ' ∨ char = '\t' ∨ char = '\n' ∨ char = Char.ofNat 11 ∨
    char = Char.ofNat 12 ∨ char = '\r'

instance (char : Char) : Decidable (IsSpace char) :=
  inferInstanceAs (Decidable (_ ∨ _ ∨ _ ∨ _ ∨ _ ∨ _))

/-- What no number contains. -/
def IsDelimiter (char : Char) : Prop :=
  IsSpace char ∨ char = ',' ∨ char = '[' ∨ char = ']'

instance (char : Char) : Decidable (IsDelimiter char) :=
  inferInstanceAs (Decidable (_ ∨ _ ∨ _ ∨ _))

/-- How a number is read at the front of a text: its value and what is left.  The
number is a word without delimiters. -/
structure FloatReader (α : Type) where
  read : List Char → Option (α × List Char)
  takes : ∀ {text value rest}, read text = some (value, rest) →
    ∃ word, word ≠ [] ∧ (∀ char ∈ word, ¬IsDelimiter char) ∧
      text = word ++ rest

variable {α : Type}

variable
  (reader : FloatReader α)

/-- Extraction of a number from a stream. -/
def FloatReader.extract
    (text : List Char) : Option (α × List Char) :=
  reader.read (text.dropWhile fun char => IsSpace char)

/-- The stream with its flags, and the variables of the loop. -/
structure ParseState (α : Type) where
  text : List Char
  eof : Bool
  fail : Bool
  depth : ℤ
  currentVector : List α
  result : List (List α)

structure Outcome (α : Type) where
  errorReturn : String
  result : List (List α)

/-- One pass of the loop.  A number at the end of the text is read up to the
end. -/
def parsePass
    (state : ParseState α) : Except String (ParseState α) :=
  match state.text with
  | [] => .ok { state with eof := true }
  | char :: rest =>
      if char = '[' then
        if 2 < state.depth + 1 then
          .error "Array depth greater than 2"
        else
          .ok { state with
            text := rest
            depth := state.depth + 1
            currentVector := [] }
      else if char = ']' then
        if state.depth - 1 < 0 then
          .error "More close ] than open ["
        else
          .ok { state with
            text := rest
            depth := state.depth - 1
            result :=
              if state.depth - 1 = 1 then
                state.result ++ [state.currentVector]
              else
                state.result }
      else if char = ',' ∨ char = ' ' ∨ char = '\t' then
        .ok { state with text := rest }
      else if state.depth ≠ 2 then
        .error ("Numbers at depth other than 2. Char was '" ++
          String.singleton char ++ "'.")
      else
        match reader.extract state.text with
        | none => .ok { state with fail := true }
        | some (value, left) =>
            .ok { state with
              text := left
              eof := left.isEmpty
              currentVector := state.currentVector ++ [value] }

def finish (state : ParseState α) : Outcome α where
  errorReturn :=
    if state.depth ≠ 0 then "Unterminated vector string." else ""
  result := state.result

/-- The loop, if it ends within so many passes. -/
def parseLoop
    (reader : FloatReader α) : Nat → ParseState α → Option (Outcome α)
  | 0, _ => none
  | fuel + 1, state =>
      if state.fail ∨ state.eof then
        some (finish state)
      else
        match parsePass reader state with
        | .error message =>
            some { errorReturn := message, result := state.result }
        | .ok later => parseLoop reader fuel later

def startParse (input : List Char) : ParseState α where
  text := input
  eof := false
  fail := false
  depth := 0
  currentVector := []
  result := []

def parseVVF
    (input : List Char)
    (fuel : Nat) : Option (Outcome α) :=
  parseLoop reader fuel (startParse input)

end NavBim.ArrayParser
