import Scenario.Cursor
import Scenario.Proofs.Position

/-! # What reading does to a cursor

Every rule of the scan moves the cursor in the same way: it passes a gap of characters and then
records a value (`Cursor.read`). This module says what such a move leaves in each field, and which
token is then recorded. The moves that look for their own end (`recordUntil`, `skipBlanks`) are
brought to that form from what is ahead of the cursor.
-/

namespace Scenario

/-- The token of a value that starts at a position. -/
def Position.token (p : Position) (file : Option String) (kind : Kind) (value : List Char)
    (inline : Bool) : Token :=
  { kind
    value := String.ofList value
    inline
    line := p.line
    column := p.column
    start := p.offset
    stop := p.offset + value.length
    file }

namespace Cursor

/-- Pass a gap, then record a value. -/
def read (c : Cursor) (gap value : List Char) : Cursor :=
  (c.skip gap.length).record value.length

@[simp] theorem options_record (c : Cursor) (n : Nat) : (c.record n).options = c.options := by
  unfold record
  split <;> rfl

@[simp] theorem file_record (c : Cursor) (n : Nat) : (c.record n).file = c.file := by
  unfold record
  split <;> rfl

@[simp] theorem latest_record (c : Cursor) (n : Nat) : (c.record n).latest = c.latest := by
  unfold record
  split <;> rfl

@[simp] theorem count_record (c : Cursor) (n : Nat) : (c.record n).count = c.count := by
  unfold record
  split <;> rfl

theorem behind_record (c : Cursor) (n : Nat) :
    (c.record n).behind = (c.ahead.take n).reverse ++ c.behind := by
  unfold record
  split
  · next none => simp [none]
  · rfl

theorem position_record (c : Cursor) (n : Nat) :
    (c.record n).position = c.position.after (c.ahead.take n) := by
  unfold record
  split
  · next none => simp [none]
  · rfl

theorem pending_record (c : Cursor) (n : Nat) :
    (c.record n).pending = c.pending ++ c.ahead.take n := by
  unfold record
  split
  · next none => simp [none]
  · rfl

/-- Recording keeps the place where the token starts. -/
@[simp] theorem origin_record (c : Cursor) (n : Nat) : (c.record n).origin = c.origin := by
  unfold record
  split
  · rfl
  · next content =>
    have filled : (c.pending ++ c.ahead.take n).isEmpty = false := by
      rw [List.isEmpty_eq_false_iff]
      exact fun empty => content (List.append_eq_nil_iff.1 empty).2
    rw [origin]
    simp only [filled, Bool.false_eq_true, if_false]

@[simp] theorem skip_zero (c : Cursor) : c.skip 0 = c := rfl

theorem skip_skip (c : Cursor) (m n : Nat) : (c.skip m).skip n = c.skip (m + n) := by
  simp [skip, List.take_add, List.drop_drop]

theorem position_skip (c : Cursor) (n : Nat) :
    (c.skip n).position = c.position.after (c.ahead.take n) :=
  Position.foldl_next ..

@[simp] theorem options_read (c : Cursor) (gap value : List Char) :
    (c.read gap value).options = c.options := by
  simp [read, skip]

@[simp] theorem file_read (c : Cursor) (gap value : List Char) :
    (c.read gap value).file = c.file := by
  simp [read, skip]

@[simp] theorem latest_read (c : Cursor) (gap value : List Char) :
    (c.read gap value).latest = c.latest := by
  simp [read]

@[simp] theorem count_read (c : Cursor) (gap value : List Char) :
    (c.read gap value).count = c.count := by
  simp [read, skip]

section Read

variable {c : Cursor} {gap value rest : List Char} (ahead : c.ahead = gap ++ (value ++ rest))
include ahead

theorem ahead_read : (c.read gap value).ahead = rest := by
  simp [read, ahead]

theorem behind_read : (c.read gap value).behind = (gap ++ value).reverse ++ c.behind := by
  simp [read, behind_record, skip, ahead]

theorem position_read : (c.read gap value).position = c.position.after (gap ++ value) := by
  simp [read, position_record, position_skip, ahead, Position.after_append]

theorem pending_read (clean : c.pending = []) : (c.read gap value).pending = value := by
  simp [read, pending_record, skip, ahead, clean]

theorem origin_read (clean : c.pending = []) :
    (c.read gap value).origin = c.position.after gap := by
  have same : (c.skip gap.length).pending = [] := clean
  rw [read, origin_record, origin, same, position_skip]
  simp [ahead]

theorem token_read (clean : c.pending = []) (kind : Kind) (inline : Bool) :
    (c.read gap value).token kind inline =
      (c.position.after gap).token c.file kind value inline := by
  rw [token, origin_read ahead clean, position_read ahead, pending_read ahead clean, file_read]
  simp [Position.token, Int.add_assoc]

end Read

/-! ## Moves that look for their own end -/

private theorem takeWhile_boundary {p : Char → Bool} {run rest : List Char}
    (inside : ∀ char ∈ run, p char = true) (boundary : ∀ char ∈ rest.head?, p char = false) :
    (run ++ rest).takeWhile p = run := by
  rw [List.takeWhile_append_of_pos inside]
  cases rest with
  | nil => simp
  | cons char rest => simp [boundary char rfl]

theorem recordUntil_eq {c : Cursor} {stop : Char → Bool} {value rest : List Char}
    (ahead : c.ahead = value ++ rest) (inside : ∀ char ∈ value, stop char = false)
    (boundary : ∀ char ∈ rest.head?, stop char = true) :
    c.recordUntil stop = c.record value.length := by
  have run : (value ++ rest).takeWhile (fun char => !stop char) = value := by
    apply takeWhile_boundary
    · intro char member
      simp [inside char member]
    · intro char first
      simp [boundary char first]
  rw [recordUntil, ahead, run]

theorem skipBlanks_eq {c : Cursor} {lead rest : List Char} (ahead : c.ahead = lead ++ rest)
    (inside : ∀ char ∈ lead, Delimiter.isBlank char = true)
    (boundary : ∀ char ∈ rest.head?, Delimiter.isBlank char = false) :
    c.skipBlanks = c.skip lead.length := by
  rw [skipBlanks, ahead, takeWhile_boundary inside boundary]

theorem skipChar_eq_skip {c : Cursor} {char : Char} {rest : List Char}
    (ahead : c.ahead = char :: rest) : c.skipChar char = c.skip 1 := by
  simp [skipChar, ahead]

theorem skipChar_eq_self {c : Cursor} {char : Char} (other : c.ahead.head? ≠ some char) :
    c.skipChar char = c := by
  simp [skipChar, other]

end Cursor

end Scenario
