import Scenario.Proofs.Chart
import Scenario.Proofs.Execution

/-! # Moves between two tokens

A move of the scan leads up to the next token but does not make it, so it leaves alone what the
cursor knows of the tokens made (`Cursor.Unmade`). It asks for the token of the end of the input
only where nothing is ahead, and fails only there (`Move.Drained`). Together with the progress of
every rule this says what is left to do at a cursor, and that each token makes it less (`load`).
-/

namespace Scenario

/-- No token was made between two states of a cursor. -/
structure Cursor.Unmade (c d : Cursor) : Prop where
  count : d.count = c.count
  latest : d.latest = c.latest

namespace Cursor

theorem Unmade.refl (c : Cursor) : c.Unmade c := ⟨rfl, rfl⟩

theorem Unmade.trans {c d e : Cursor} (first : c.Unmade d) (later : d.Unmade e) : c.Unmade e :=
  ⟨later.count.trans first.count, later.latest.trans first.latest⟩

theorem Unmade.finished {c d : Cursor} (unmade : c.Unmade d) : d.finished = c.finished := by
  rw [Cursor.finished, Cursor.finished, unmade.latest]

theorem unmade_skip (c : Cursor) (n : Nat) : c.Unmade (c.skip n) := ⟨rfl, rfl⟩

theorem unmade_record (c : Cursor) (n : Nat) : c.Unmade (c.record n) :=
  ⟨c.count_record n, c.latest_record n⟩

theorem unmade_skipChar (c : Cursor) (char : Char) : c.Unmade (c.skipChar char) := by
  rw [skipChar]
  split
  · exact c.unmade_skip 1
  · exact .refl c

theorem unmade_skipNewline (c : Cursor) : c.Unmade c.skipNewline :=
  (c.unmade_skipChar '\r').trans (unmade_skipChar _ '\n')

end Cursor

namespace Scan

section Unmade

variable (c : Cursor)

/-- A rule that passes its first character and records up to a stop. -/
private theorem unmade_recordUntil (stop : Char → Bool) :
    c.Unmade ((c.skip 1).recordUntil stop) :=
  (c.unmade_skip 1).trans ((c.skip 1).unmade_record _)

theorem unmade_directive : c.Unmade (directive c).cursor := by
  simp only [directive]
  split <;> exact unmade_recordUntil c _

theorem unmade_segment : c.Unmade (segment c).cursor := by
  simp only [segment]
  split <;> exact c.unmade_record _

theorem unmade_label : c.Unmade (label c).cursor := by
  simp only [label]
  split
  · exact c.unmade_skip 1
  · exact (c.unmade_skip 1).trans (unmade_segment _)

theorem unmade_tag (inline : Bool) : c.Unmade (tag inline c).cursor := by
  simp only [tag]
  split
  · exact unmade_recordUntil c _
  · split <;> exact unmade_recordUntil c _

theorem unmade_route : c.Unmade (route c).cursor := by
  rw [route]
  split
  · exact .refl c
  · exact unmade_directive c
  · exact unmade_label c
  · exact c.unmade_record _
  · exact unmade_tag c false
  · exact c.unmade_record _

theorem unmade_line : c.Unmade (line c).cursor := by
  rw [line]
  split
  · exact (c.unmade_skip _).trans (unmade_route _)
  · exact unmade_route c

theorem unmade_step (resume : Resume) : c.Unmade (resume.step c).cursor := by
  cases resume with
  | finish => exact .refl c
  | endLine => exact c.unmade_skipNewline
  | closeTag => exact c.unmade_skipChar ']'
  | nextSegment =>
    simp only [Resume.step]
    split
    · split
      · exact c.unmade_skip 1
      · split
        · exact (c.unmade_skip 1).trans (Cursor.unmade_skipNewline _)
        · exact (c.unmade_skip 1).trans (unmade_segment _)
    · exact c.unmade_skipNewline
  | afterText inline =>
    simp only [Resume.step]
    split
    · exact .refl c
    · exact unmade_tag c inline
    · exact unmade_line c

theorem unmade_turn (resume : Resume) : c.Unmade (turn resume c).cursor := by
  have unmade := unmade_step c resume
  rw [turn]
  cases step : resume.step c with
  | emit kind inline warning left next => rwa [step] at unmade
  | fail fault next => rwa [step] at unmade
  | done next =>
    rw [step] at unmade
    by_cases finished : next.finished = true
    · simpa only [finished, if_true] using unmade
    · simpa only [finished, Bool.false_eq_true, if_false] using unmade.trans (unmade_line next)

end Unmade

/-! ## The end of the input -/

/-- Nothing is ahead of the token for the end of the input, or of a fault. -/
def Move.Drained : Move → Prop
  | .emit kind _ _ _ next => kind = .endOfInput → next.ahead = []
  | .done _ => True
  | .fail _ next => next.ahead = []

section Drained

variable (c : Cursor)

/-- A rule that fails has read up to the end. -/
private theorem drained_fail {fault : Fault} {next : Cursor} (ended : next.atEnd = true) :
    (Move.fail fault next).Drained := List.isEmpty_iff.1 ended

private theorem drained_emit {kind : Kind} {inline : Bool} {warning : Option Span}
    {resume : Resume} {next : Cursor} (other : kind ≠ .endOfInput) :
    (Move.emit kind inline warning resume next).Drained := fun same => absurd same other

theorem drained_directive : (directive c).Drained := by
  simp only [directive]
  split
  · next ended => exact drained_fail ended
  · exact drained_emit (by decide)

theorem drained_segment : (segment c).Drained := by
  simp only [segment]
  split
  · next ended => exact drained_fail ended
  · exact drained_emit (by decide)

theorem drained_label : (label c).Drained := by
  simp only [label]
  split
  · next ended => exact drained_fail ended
  · exact drained_segment _

theorem drained_tag (inline : Bool) : (tag inline c).Drained := by
  simp only [tag]
  split
  · exact drained_emit (by decide)
  · next ended =>
    split
    · exact drained_fail (by simpa using ended)
    · exact drained_emit (by decide)

theorem drained_route : (route c).Drained := by
  rw [route]
  split
  · next ended => exact fun _ => ended
  · exact drained_directive c
  · exact drained_label c
  · exact drained_emit (by decide)
  · exact drained_tag c false
  · exact drained_emit (by decide)

theorem drained_line : (line c).Drained := drained_route _

theorem drained_step (resume : Resume) : (resume.step c).Drained := by
  cases resume with
  | finish => trivial
  | endLine => trivial
  | closeTag => trivial
  | nextSegment =>
    simp only [Resume.step]
    split
    · split
      · trivial
      · split
        · trivial
        · exact drained_segment _
    · trivial
  | afterText inline =>
    simp only [Resume.step]
    split
    · trivial
    · exact drained_tag c inline
    · exact drained_line c

end Drained

/-! ## What is left to do -/

/-- The characters ahead of a cursor, and the token for their end. -/
def load (c : Cursor) : Nat := c.ahead.length + unfinished c

/-- The end of the input has been read only where nothing is ahead. -/
def Settled (c : Cursor) : Prop := c.finished = true → c.ahead = []

section Load

variable {c next : Cursor} {kind : Kind} {inline : Bool} {warning : Option Span}
  {resume left : Resume}

theorem settled_finalize (ended : kind = .endOfInput → next.ahead = []) :
    Settled (next.finalize kind) := by
  intro finished
  exact ended (by simpa [Cursor.finished] using finished)

/-- A token makes the load less, if it takes characters or is that of the end of the input. -/
theorem load_finalize_lt (opened : c.finished = false)
    (ended : kind = .endOfInput → next.ahead = [])
    (shorter : kind ≠ .endOfInput → next.ahead.length < c.ahead.length) :
    load (next.finalize kind) < load c := by
  have one : unfinished c = 1 := by simp [unfinished, opened]
  by_cases last : kind = .endOfInput
  · subst last
    have none : unfinished (next.finalize .endOfInput) = 0 := rfl
    simp [load, one, none, ended rfl]
  · have fewer := shorter last
    have least : unfinished (next.finalize kind) ≤ 1 := by
      unfold unfinished
      split <;> decide
    rw [load, load, one, Cursor.ahead_finalize]
    omega

theorem load_of_line (opened : c.finished = false)
    (read : line c = .emit kind inline warning left next) :
    load (next.finalize kind) < load c ∧ Settled (next.finalize kind) := by
  have drained := drained_line c
  rw [read] at drained
  refine ⟨load_finalize_lt opened drained fun more => ?_, settled_finalize drained⟩
  apply shortens_line _ _ _ _ _ _ read
  intro none
  obtain ⟨last, -, same⟩ := line_of_nil none
  cases same.symm.trans read
  exact more rfl

theorem load_of_step (settled : Settled c)
    (read : resume.step c = .emit kind inline warning left next) :
    c.finished = false ∧ load (next.finalize kind) < load c ∧ Settled (next.finalize kind) := by
  have drained := drained_step c resume
  rw [read] at drained
  have shorter := shortens_step _ _ _ _ _ _ _ read
  have opened : c.finished = false := by
    rw [Bool.eq_false_iff]
    intro finished
    rw [settled finished] at shorter
    exact absurd shorter (by simp)
  exact ⟨opened, load_finalize_lt opened drained fun _ => shorter, settled_finalize drained⟩

/-- What is left where no token is made: nothing has come back. -/
theorem load_of_unmade (settled : Settled c) (unmade : c.Unmade next)
    (shorter : next.ahead.length ≤ c.ahead.length) : load next ≤ load c ∧ Settled next := by
  have same := unmade.finished
  constructor
  · simp only [load, unfinished, same]
    omega
  · intro finished
    have none := settled (same ▸ finished)
    rw [none] at shorter
    exact List.length_eq_zero_iff.1 (by simpa using shorter)

/-- The load is gone once the end of the input has been read. -/
theorem load_of_finished (settled : Settled c) (finished : c.finished = true) : load c = 0 := by
  simp [load, unfinished, finished, settled finished]

theorem finished_of_load (none : load c = 0) : c.finished = true := by
  by_contra opened
  simp [load, unfinished, opened] at none

end Load

end Scan

end Scenario
