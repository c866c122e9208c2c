import Mathlib.Data.List.Basic

namespace NavBim.BracketTables

/-!
# Tables in brackets

A table is a list of rows.  It is written as a list of tokens: each row in a pair
of brackets, and all rows of the table in another pair.  A reader takes one token
after the other and only knows what it has read so far.  It gets to the end of a
table with exactly those tokens that are written for some tables.
-/

inductive Token (α : Type) where
  | opens
  | closes
  | item (value : α)

variable {α : Type}

/-! ## Writing -/

def rowTokens (row : List α) : List (Token α) :=
  .opens :: (row.map .item ++ [.closes])

def tableTokens (table : List (List α)) : List (Token α) :=
  .opens :: (table.flatMap rowTokens ++ [.closes])

/-- Tables one after the other. -/
def textTokens (tables : List (List (List α))) : List (Token α) :=
  tables.flatMap tableTokens

/-! ## Reading -/

/-- Where a reader is, and what it has read. -/
inductive Progress (α : Type) where
  | outside (tables : List (List (List α)))
  | inTable (tables : List (List (List α))) (rows : List (List α))
  | inRow (tables : List (List (List α))) (rows : List (List α))
      (items : List α)

namespace Progress

/-- The next token may be out of place. -/
def next : Progress α → Token α → Option (Progress α)
  | outside tables, .opens => some (inTable tables [])
  | inTable tables rows, .opens => some (inRow tables rows [])
  | inTable tables rows, .closes => some (outside (tables ++ [rows]))
  | inRow tables rows items, .closes => some (inTable tables (rows ++ [items]))
  | inRow tables rows items, .item value =>
      some (inRow tables rows (items ++ [value]))
  | _, _ => none

def run : Progress α → List (Token α) → Option (Progress α)
  | progress, [] => some progress
  | progress, token :: rest => (progress.next token).bind fun later =>
      later.run rest

/-- The tokens that were read. -/
def written : Progress α → List (Token α)
  | outside tables => textTokens tables
  | inTable tables rows => textTokens tables ++ .opens :: rows.flatMap rowTokens
  | inRow tables rows items =>
      textTokens tables ++ .opens :: rows.flatMap rowTokens ++
        .opens :: items.map .item

theorem written_next
    {progress later : Progress α}
    {token : Token α}
    (goes : progress.next token = some later) :
    later.written = progress.written ++ [token] := by
  cases progress with
  | outside tables =>
      cases token with
      | opens =>
          cases goes
          simp [written]
      | closes => cases goes
      | item value => cases goes
  | inTable tables rows =>
      cases token with
      | opens =>
          cases goes
          simp [written]
      | closes =>
          cases goes
          simp [written, textTokens, tableTokens]
      | item value => cases goes
  | inRow tables rows items =>
      cases token with
      | opens => cases goes
      | closes =>
          cases goes
          simp [written, rowTokens]
      | item value =>
          cases goes
          simp [written]

theorem written_run
    {progress later : Progress α}
    {tokens : List (Token α)}
    (goes : progress.run tokens = some later) :
    later.written = progress.written ++ tokens := by
  induction tokens generalizing progress with
  | nil =>
      cases goes
      exact (List.append_nil _).symm
  | cons token rest inductionHypothesis =>
      obtain ⟨middle, steps, onwards⟩ := Option.bind_eq_some_iff.mp goes
      rw [inductionHypothesis onwards, written_next steps, List.append_assoc]
      rfl

theorem run_append
    (progress : Progress α)
    (earlier later : List (Token α)) :
    progress.run (earlier ++ later) =
      (progress.run earlier).bind fun middle => middle.run later := by
  induction earlier generalizing progress with
  | nil => rfl
  | cons token rest inductionHypothesis =>
      rw [List.cons_append, run, run]
      cases progress.next token with
      | none => rfl
      | some middle => exact inductionHypothesis middle

variable
  (tables : List (List (List α)))

theorem run_items
    (rows : List (List α))
    (items more : List α) :
    (inRow tables rows items).run (more.map .item) =
      some (inRow tables rows (items ++ more)) := by
  induction more generalizing items with
  | nil =>
      rw [List.append_nil]
      rfl
  | cons value rest inductionHypothesis =>
      rw [List.map_cons, run, next, Option.bind_some, inductionHypothesis,
        List.append_assoc]
      rfl

theorem run_row
    (rows : List (List α))
    (row : List α) :
    (inTable tables rows).run (rowTokens row) =
      some (inTable tables (rows ++ [row])) := by
  rw [rowTokens, run, next, Option.bind_some, run_append, run_items]
  rfl

theorem run_rows
    (rows more : List (List α)) :
    (inTable tables rows).run (more.flatMap rowTokens) =
      some (inTable tables (rows ++ more)) := by
  induction more generalizing rows with
  | nil =>
      rw [List.append_nil]
      rfl
  | cons row rest inductionHypothesis =>
      rw [List.flatMap_cons, run_append, run_row, Option.bind_some,
        inductionHypothesis, List.append_assoc]
      rfl

theorem run_table
    (table : List (List α)) :
    (outside tables).run (tableTokens table) =
      some (outside (tables ++ [table])) := by
  rw [tableTokens, run, next, Option.bind_some, run_append, run_rows]
  rfl

theorem run_tables
    (tables more : List (List (List α))) :
    (outside tables).run (textTokens more) =
      some (outside (tables ++ more)) := by
  induction more generalizing tables with
  | nil =>
      rw [List.append_nil]
      rfl
  | cons table rest inductionHypothesis =>
      rw [textTokens, List.flatMap_cons, run_append, run_table,
        Option.bind_some, ← textTokens, inductionHypothesis, List.append_assoc]
      rfl

theorem run_eq_outside_iff
    (tokens : List (Token α))
    (tables : List (List (List α))) :
    (outside []).run tokens = some (outside tables) ↔
      tokens = textTokens tables := by
  constructor
  · intro goes
    exact (written_run goes).symm
  · intro isText
    rw [isText, run_tables, List.nil_append]

end Progress

/-- Different tables are written differently. -/
theorem textTokens_injective
    {first second : List (List (List α))}
    (same : textTokens first = textTokens second) :
    first = second := by
  have goes := (Progress.run_eq_outside_iff (textTokens first) second).mpr same
  have own := (Progress.run_eq_outside_iff (textTokens first) first).mpr rfl
  cases own.symm.trans goes
  rfl

end NavBim.BracketTables
