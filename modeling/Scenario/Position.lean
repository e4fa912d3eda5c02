/-! # Positions in a text

A position counts the characters before it, and gives line and column from one. Only the line feed
starts a new line; a carriage return is a character of the line it stands on.
-/

namespace Scenario

/-- A place between two characters of a text. -/
structure Position where
  offset : Nat := 0
  line : Nat := 1
  column : Nat := 1
  deriving DecidableEq

namespace Position

/-- The start of every text. -/
def start : Position := {}

/-- The position after one more character (`Cursor._move`). -/
def next (p : Position) (c : Char) : Position :=
  if c = '\n' then { offset := p.offset + 1, line := p.line + 1, column := 1 }
  else { offset := p.offset + 1, line := p.line, column := p.column + 1 }

/-- The position after a whole run, from its length, its number of line feeds and what follows the
last of them (`Cursor._move_over`). -/
def after (p : Position) (run : List Char) : Position :=
  let feeds := run.count '\n'
  { offset := p.offset + run.length
    line := p.line + feeds
    column :=
      if feeds = 0 then p.column + run.length
      else (run.reverse.takeWhile (· != '\n')).length + 1 }

end Position

end Scenario
