import Scenario.Delimiter
import Scenario.Options
import Scenario.Token

/-! # Cursors

A `Cursor` is the state of one scan: the characters behind and ahead of it, its position, the
characters recorded for the token that is being read, and what has been read so far. A cursor only
ever moves forward. Characters are either recorded or skipped, and `finalize` turns what was
recorded into a token.
-/

namespace Scenario

/-- The state of one scan (`Cursor`). -/
structure Cursor where
  /-- The characters already passed, the latest first. -/
  behind : List Char := []
  /-- The characters still to come. -/
  ahead : List Char
  position : Position := .start
  file : Option String := none
  options : Options := {}
  /-- The characters recorded since the last token. -/
  pending : List Char := []
  /-- Where the recorded characters start, while there are any. -/
  mark : Position := .start
  /-- The kind of the last token. -/
  latest : Option Kind := none
  /-- How many tokens were read. -/
  count : Nat := 0
  deriving DecidableEq

namespace Cursor

/-- A cursor at the start of a source (`Cursor.__init__`). -/
def ofSource (source : String) (file : Option String) (options : Options) : Cursor :=
  { ahead := source.toList, file, options }

/-- The whole source (`Cursor.text`). -/
def source (c : Cursor) : String := String.ofList (c.behind.reverse ++ c.ahead)

/-- Whether nothing is left to read (`Cursor.at_end`). -/
def atEnd (c : Cursor) : Bool := c.ahead.isEmpty

/-- Whether the end of the input has been read as a token. -/
def finished (c : Cursor) : Bool := c.latest == some .endOfInput

/-- The empty span at the cursor (`Cursor.location`). -/
def place (c : Cursor) : Span := c.position.toSpan c.file

/-- The cursor on one line: how far it is in the source, and its line and column
(`Cursor.__repr__`). -/
def describe (c : Cursor) : String :=
  "Cursor(pos=" ++ toString c.position.offset ++ "/" ++
    toString (c.behind.length + c.ahead.length) ++ ", " ++ toString c.position.line ++ ":" ++
    toString c.position.column ++ ")"

/-- The character at a distance from the cursor: zero is the next one, minus one the last one passed
(`Cursor.peek`). -/
def peek (c : Cursor) : Int → Option Char
  | .ofNat n => c.ahead[n]?
  | .negSucc n => c.behind[n]?

/-- Where the token starts that further characters belong to: at the mark, or here if no character
has been recorded (`Cursor._save_location`). -/
def origin (c : Cursor) : Position :=
  if c.pending.isEmpty then c.position else c.mark

/-- Record the next character (`Cursor.advance`). -/
def advance (c : Cursor) : Cursor :=
  match c.ahead with
  | [] => c
  | char :: rest =>
      { c with
        behind := char :: c.behind
        ahead := rest
        position := c.position.next char
        pending := c.pending ++ [char]
        mark := c.origin }

/-- Record the next characters, up to `n` of them, in one piece. -/
def record (c : Cursor) (n : Nat) : Cursor :=
  match c.ahead.take n with
  | [] => c
  | run =>
      { c with
        behind := run.reverse ++ c.behind
        ahead := c.ahead.drop n
        position := c.position.after run
        pending := c.pending ++ run
        mark := c.origin }

/-- Record all characters before the next one of the class `stop` (`Cursor.scan_until_any`). -/
def recordUntil (stop : Char → Bool) (c : Cursor) : Cursor :=
  c.record (c.ahead.takeWhile fun char => !stop char).length

/-- Pass the next characters, up to `n` of them, without recording them
(`Cursor.skip_one` for one). -/
def skip (c : Cursor) (n : Nat) : Cursor :=
  { c with
    behind := (c.ahead.take n).reverse ++ c.behind
    ahead := c.ahead.drop n
    position := (c.ahead.take n).foldl Position.next c.position }

/-- Pass all blank characters (`Cursor.skip_whitespace`). -/
def skipBlanks (c : Cursor) : Cursor :=
  c.skip (c.ahead.takeWhile Delimiter.isBlank).length

/-- Pass the given character if it is the next one. -/
def skipChar (char : Char) (c : Cursor) : Cursor :=
  if c.ahead.head? = some char then c.skip 1 else c

/-- Pass one end of line: a carriage return if there is one, then a line feed if there is one
(`Cursor.skip_newline`). -/
def skipNewline (c : Cursor) : Cursor :=
  (c.skipChar '\r').skipChar '\n'

/-- The token made of what was recorded (the event of `Cursor.finalize_token`). -/
def token (c : Cursor) (kind : Kind) (inline : Bool) : Token :=
  { kind
    value := String.ofList c.pending
    inline
    line := c.origin.line
    column := c.origin.column
    start := c.origin.offset
    stop := c.position.offset
    file := c.file }

/-- The cursor after a token of the given kind was made of what was recorded (the rest of
`Cursor.finalize_token`). -/
def finalize (c : Cursor) (kind : Kind) : Cursor :=
  { c with pending := [], mark := c.origin, latest := some kind, count := c.count + 1 }

@[simp] theorem ahead_finalize (c : Cursor) (kind : Kind) : (c.finalize kind).ahead = c.ahead := rfl

@[simp] theorem latest_finalize (c : Cursor) (kind : Kind) :
    (c.finalize kind).latest = some kind := rfl

@[simp] theorem ahead_skip (c : Cursor) (n : Nat) : (c.skip n).ahead = c.ahead.drop n := rfl

@[simp] theorem latest_skip (c : Cursor) (n : Nat) : (c.skip n).latest = c.latest := rfl

@[simp] theorem ahead_record (c : Cursor) (n : Nat) : (c.record n).ahead = c.ahead.drop n := by
  unfold record
  split
  · next h =>
    rcases List.take_eq_nil_iff.1 h with h | h <;> simp [h]
  · rfl

private theorem drop_length_takeWhile (p : Char → Bool) (cs : List Char) :
    cs.drop (cs.takeWhile p).length = cs.dropWhile p := by
  induction cs with
  | nil => rfl
  | cons c cs ih => by_cases h : p c <;> simp [h, ih]

@[simp] theorem ahead_recordUntil (c : Cursor) (stop : Char → Bool) :
    (c.recordUntil stop).ahead = c.ahead.dropWhile fun char => !stop char := by
  rw [recordUntil, ahead_record, drop_length_takeWhile]

@[simp] theorem latest_skipChar (c : Cursor) (char : Char) :
    (c.skipChar char).latest = c.latest := by
  unfold skipChar
  split <;> rfl

theorem length_skipChar_le (c : Cursor) (char : Char) :
    (c.skipChar char).ahead.length ≤ c.ahead.length := by
  unfold skipChar
  split <;> simp

@[simp] theorem latest_skipNewline (c : Cursor) : c.skipNewline.latest = c.latest := by
  simp [skipNewline]

theorem length_skipNewline_le (c : Cursor) : c.skipNewline.ahead.length ≤ c.ahead.length :=
  Nat.le_trans (length_skipChar_le ..) (length_skipChar_le ..)

theorem length_skipBlanks_le (c : Cursor) : c.skipBlanks.ahead.length ≤ c.ahead.length := by
  simp [skipBlanks]

end Cursor

end Scenario
