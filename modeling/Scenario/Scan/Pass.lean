import Scenario.Scan.Rule

/-! # Passes over a source

A pass reads line after line until the end of the input has been read as a token or a rule fails.
It is defined here for a cursor that nobody moves meanwhile; it ends because every token either
takes characters or is the end of the input.
-/

namespace Scenario.Scan

/-- What a pass gives. -/
structure Pass where
  /-- The tokens in the order in which they were read. -/
  tokens : List Token := []
  /-- The places of the tags that were read to the end of the input. -/
  warnings : List Span := []
  /-- Why the pass ended early, if it did. -/
  fault : Option Fault := none
  /-- Where the pass ended. -/
  cursor : Cursor

namespace Pass

/-- The pass with one more token before all others. -/
def cons (token : Token) (warning : Option Span) (pass : Pass) : Pass :=
  { pass with tokens := token :: pass.tokens, warnings := warning.toList ++ pass.warnings }

/-- The tokens, if the pass came to the end of the input. -/
def result (pass : Pass) : Except Fault (List Token) :=
  match pass.fault with
  | none => .ok pass.tokens
  | some fault => .error fault

end Pass

/-- What a pass still has to do at a cursor, beside reading what is ahead. -/
def unfinished (c : Cursor) : Nat := if c.finished then 0 else 1

private theorem finished_of_latest {c d : Cursor} (h : d.latest = c.latest) :
    d.finished = c.finished := by
  simp [Cursor.finished, h]

/-- Finish a rule, then read line after line to the end. -/
def passFrom (resume : Resume) (c : Cursor) : Pass :=
  match _step : resume.step c with
  | .emit kind inline warning resume next =>
      (passFrom resume (next.finalize kind)).cons (next.token kind inline) warning
  | .fail fault next => { fault := some fault, cursor := next }
  | .done next =>
      if _open : next.finished then { cursor := next }
      else
        match _line : line next with
        | .emit kind inline warning resume last =>
            (passFrom resume (last.finalize kind)).cons (last.token kind inline) warning
        | .fail fault last => { fault := some fault, cursor := last }
        | .done last => { cursor := last }
termination_by (c.ahead.length, unfinished c)
decreasing_by
  · have shorter := shortens_step _ _ _ _ _ _ _ _step
    exact Prod.Lex.left _ _ shorter
  · obtain ⟨latest, shorter⟩ := step_done _step
    by_cases rest : next.ahead = []
    · obtain ⟨ended, atEnd, same⟩ := line_of_nil rest
      cases same.symm.trans _line
      have opened : c.finished = false := by
        rw [← finished_of_latest latest]; simpa using _open
      have closed : (last.finalize .endOfInput).finished = true := rfl
      rcases Nat.eq_zero_or_pos c.ahead.length with zero | positive
      · simp only [Cursor.ahead_finalize, atEnd, List.length_nil, zero]
        exact Prod.Lex.right _ (by simp [unfinished, opened, closed])
      · exact Prod.Lex.left _ _ (by simpa [atEnd] using positive)
    · have fewer := shortens_line rest _ _ _ _ _ _line
      exact Prod.Lex.left _ _ (Nat.lt_of_lt_of_le fewer shorter)

private theorem endOfInput_mem_cons {pass : Pass} {c : Cursor} {kind : Kind} {inline : Bool}
    {warning : Option Span}
    (h : (c.finalize kind).finished ∨ ∃ token ∈ pass.tokens, token.kind = .endOfInput) :
    ∃ token ∈ (pass.cons (c.token kind inline) warning).tokens, token.kind = .endOfInput := by
  rcases h with h | ⟨token, member, same⟩
  · have same : kind = .endOfInput := by simpa [Cursor.finished] using h
    exact ⟨c.token kind inline, List.mem_cons_self, same⟩
  · exact ⟨token, List.mem_cons_of_mem _ member, same⟩

/-- A pass that does not fail reads the end of the input, unless it was read before. -/
theorem endOfInput_mem_passFrom (resume : Resume) (c : Cursor)
    (ok : (passFrom resume c).fault = none) :
    c.finished ∨ ∃ token ∈ (passFrom resume c).tokens, token.kind = .endOfInput := by
  fun_induction passFrom resume c with
  | case1 resume c kind inline warning _ next _ ih => exact .inr (endOfInput_mem_cons (ih ok))
  | case2 => cases ok
  | case3 resume c next step finished =>
      exact .inl (finished_of_latest (step_done step).1 ▸ finished)
  | case4 resume c next _ _ kind inline warning _ last _ ih =>
      exact .inr (endOfInput_mem_cons (ih ok))
  | case5 => cases ok
  | case6 resume c next _ _ last line => exact absurd line (line_ne_done _ _)

/-- The pass from a cursor (`start_parse`). A cursor that has read the end of the input stays where
it is. -/
def pass (c : Cursor) : Pass := passFrom .finish c

end Scenario.Scan

namespace Scenario

/-- The tokens of a source, the end of the input last, or the fault that ends the scan early
(`tokenize`). -/
def tokenize (source : String) (file : Option String) (options : Options) :
    Except Fault (List Token) :=
  (Scan.pass (.ofSource source file options)).result

end Scenario
