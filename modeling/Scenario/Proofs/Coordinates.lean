import Scenario.Proofs.Placement

/-! # Lines and columns of statements

Every node of a script gives the line and column of its start, and the script itself those of its
end. Prose, and a label of several segments, give for their end the line and column where their last
token starts (`Block.stops_statement`), but the offset where that token stops. The two agree only if
the last token is empty (`marks_stop_iff`). The main statement is `parse_coordinates`.
-/

namespace Scenario.Grouping

open Shape Adjacency Tiling

/-- A line and a column are those of an offset. -/
def Marks (source : String) (offset line column : Int) : Prop :=
  line = (Position.ofOffset source.toList offset.toNat).line ∧
    column = (Position.ofOffset source.toList offset.toNat).column

/-! ## One token -/

/-- Only an empty run leaves line and column as they are. -/
theorem eq_nil_of_after {p : Position} {run : List Char} (line : (p.after run).line = p.line)
    (column : (p.after run).column = p.column) : run = [] := by
  have feeds : run.count '\n' = 0 := by
    have same : p.line + run.count '\n' = p.line := line
    omega
  have length : p.column + run.length = p.column := by
    simpa only [Position.after, feeds, if_true] using column
  exact List.length_eq_zero_iff.1 (by omega)

theorem ofOffset_stop {source : List Char} {token : Token} (occurs : Occurs source token) :
    Position.ofOffset source token.stop.toNat =
      (Position.ofOffset source token.start.toNat).after token.value.toList := by
  obtain ⟨front, value, back, rfl, same, start, stop⟩ := occurs
  have before := Position.start_after front (value ++ back)
  have behind := Position.start_after (front ++ value) back
  rw [start, stop, same, Int.toNat_natCast, Int.toNat_natCast, ← before, String.toList_ofList,
    ← Position.after_append, behind, List.append_assoc]

theorem marks_stop_iff {source : String} {token : Token} (occurs : Occurs source.toList token)
    (placed : Placed source.toList token) :
    Marks source token.stop token.line token.column ↔ token.value = "" := by
  rw [Marks, ofOffset_stop occurs, placed.1, placed.2, ← String.toList_eq_nil_iff]
  constructor
  · rintro ⟨line, column⟩
    exact eq_nil_of_after (Int.ofNat_inj.1 line.symm) (Int.ofNat_inj.1 column.symm)
  · intro empty
    rw [empty]
    exact ⟨rfl, rfl⟩

/-! ## Statements -/

theorem Block.starts_statement (block : Block) :
    block.statement.toNode.span.line = block.first.line ∧
      block.statement.toNode.span.column = block.first.column := by
  rcases block.span_statement with ⟨-, span⟩ | span
  · rw [span]
    exact ⟨rfl, rfl⟩
  · rw [span]
    exact ⟨rfl, rfl⟩

/-- The end is written down only where spans were joined, and then as the start of the last one. -/
theorem Block.stops_statement (block : Block) :
    (block.statement.toNode.span.stopLine = none ∧ block.statement.toNode.span.stopColumn = none) ∨
      (block.statement.toNode.span.stopLine = some block.last.line ∧
        block.statement.toNode.span.stopColumn = some block.last.column) := by
  rcases block.span_statement with ⟨-, span⟩ | span
  · rw [span]
    exact .inl ⟨rfl, rfl⟩
  · rw [span]
    exact .inr ⟨rfl, rfl⟩

theorem exists_tag_of_mem_children {statement : Statement} {node : Node}
    (member : node ∈ statement.toNode.children) : ∃ tag ∈ tagsIn statement, node = tag.toNode := by
  cases statement with
  | label span names => cases member
  | tag alone => cases member
  | prose span text tags =>
    obtain ⟨tag, isTag, rfl⟩ := List.mem_map.1 member
    exact ⟨tag, isTag, rfl⟩

/-- The lines and columns that a script gives, for itself and for the nodes below it. -/
structure Coordinates (source : String) (tokens : List Token) (script : Script) : Prop where
  begun : Marks source script.span.offset script.span.line script.span.column
  ended : ∃ line column, script.span.stopLine = some line ∧
    script.span.stopColumn = some column ∧ Marks source script.span.stop line column
  starts : ∀ statement ∈ script.statements,
    ∀ node ∈ statement.toNode :: statement.toNode.children,
      Marks source node.span.offset node.span.line node.span.column
  tags : ∀ tag ∈ script.statements.flatMap tagsIn,
    tag.span.stopLine = none ∧ tag.span.stopColumn = none
  /-- A statement ends at the offset of a token's end and at the line and column of its start. -/
  stops : ∀ statement ∈ script.statements, ∀ line column,
    statement.toNode.span.stopLine = some line → statement.toNode.span.stopColumn = some column →
      ∃ token ∈ tokens, token.kind ≠ .endOfInput ∧ token.stop = statement.toNode.span.stop ∧
        Marks source token.start line column ∧
        (Marks source statement.toNode.span.stop line column ↔ token.value = "")

section Laid

variable {options : Options} {source : String} {front : List Token} {last : Token}
  (laid : Laid options source front last)
include laid

theorem marks_start {token : Token} (member : token ∈ front) :
    Marks source token.start token.line token.column :=
  laid.placed token (List.mem_append_left _ member)

theorem coordinates_of_laid :
    Coordinates source (front ++ [last])
      ⟨wholeSpan last, (blocks none front).map Block.statement⟩ where
  begun := ⟨rfl, rfl⟩
  ended := by
    have placed := laid.placed last (by simp)
    refine ⟨last.line, last.column, rfl, rfl, ?_⟩
    rw [Placed, laid.ended.2.1, ← laid.ended.2.2] at placed
    exact placed
  starts := by
    intro statement member node below
    obtain ⟨block, there, rfl⟩ := List.mem_map.1 member
    rcases List.mem_cons.1 below with rfl | isChild
    · have marks := marks_start laid (mem_of_mem_tokens laid there List.mem_cons_self)
      rw [(span_laid laid there).1, block.starts_statement.1, block.starts_statement.2]
      exact marks
    · obtain ⟨tag, isTag, rfl⟩ := exists_tag_of_mem_children isChild
      have formed : block.Formed := formed_of_mem_blocks there
      rw [formed.tagsIn_statement] at isTag
      obtain ⟨token, isToken, rfl⟩ := List.mem_map.1 isTag
      exact marks_start laid (mem_of_mem_tokens laid there (List.mem_of_mem_filter isToken))
  tags := by
    intro tag member
    rw [tagsIn_blocks] at member
    obtain ⟨token, -, rfl⟩ := List.mem_map.1 member
    exact ⟨rfl, rfl⟩
  stops := by
    intro statement member line column isLine isColumn
    obtain ⟨block, there, rfl⟩ := List.mem_map.1 member
    have inFront := mem_of_mem_tokens laid there block.last_mem_tokens
    have marks := marks_start laid inFront
    have stop := (span_laid laid there).2
    rcases block.stops_statement with ⟨none, -⟩ | ⟨same, also⟩
    · cases none.symm.trans isLine
    · cases same.symm.trans isLine
      cases also.symm.trans isColumn
      refine ⟨block.last, List.mem_append_left _ inFront, laid.kind _ inFront, stop.symm, marks, ?_⟩
      rw [stop]
      exact marks_stop_iff (laid.occurs _ inFront) marks

end Laid

/-- In a script all starts are given right, and so is the end of the script. The end of a statement,
where it is given, is right only if the last token there is empty. -/
theorem parse_coordinates {source : String} {file : Option String} {options : Options}
    {script : Script} (ok : parse source file options = .ok script) :
    ∃ tokens, tokenize source file options = .ok tokens ∧ Coordinates source tokens script := by
  obtain ⟨front, last, scanned, laid, rfl⟩ := exists_laid_of_parse ok
  exact ⟨_, scanned, coordinates_of_laid laid⟩

/-- A label that ends with an empty name, and two lines of prose with a tag behind. -/
theorem parse_coordinates_joined :
    ∃ tokens script, tokenize "*a||\nx\ny[z]" none {} = .ok tokens ∧
      parse "*a||\nx\ny[z]" none {} = .ok script ∧
      Coordinates "*a||\nx\ny[z]" tokens script ∧
      script.statements.map (fun statement => (statement.toNode.span.stop,
        statement.toNode.span.stopLine, statement.toNode.span.stopColumn)) =
          [(3, some 1, some 4), (10, some 3, some 3)] := by
  have scanned : tokenize "*a||\nx\ny[z]" none {} = .ok
      [{ kind := .label, value := "a", column := 2, start := 1, stop := 2 },
        { kind := .label, value := "", column := 4, start := 3, stop := 3 },
        { kind := .text, value := "x\ny", line := 2, start := 5, stop := 8 },
        { kind := .tag, value := "z", inline := true, line := 3, column := 3, start := 9,
          stop := 10 },
        { kind := .endOfInput, value := "", line := 3, column := 5, start := 11, stop := 11 }] := by
    cbv
  have ok := parse_eq_ok_iff.2 ⟨_, scanned, rfl⟩
  obtain ⟨tokens, same, coordinates⟩ := parse_coordinates ok
  exact ⟨tokens, _, same, ok, coordinates, rfl⟩

/-- Two letters end at column three, but the column given for their end is that of the first. -/
theorem parse_stop_two_letters :
    ∃ script span, parse "ab" none {} = .ok script ∧ script.statements = [.prose span "ab" []] ∧
      span.stop = 2 ∧ span.stopLine = some 1 ∧ span.stopColumn = some 1 ∧
      ¬Marks "ab" span.stop 1 1 ∧ Marks "ab" span.stop 1 3 := by
  have scanned : tokenize "ab" none {} = .ok
      [{ kind := .text, value := "ab", stop := 2 },
        { kind := .endOfInput, value := "", column := 3, start := 2, stop := 2 }] := by
    cbv
  have ok := parse_eq_ok_iff.2 ⟨_, scanned, rfl⟩
  refine ⟨_, _, ok, rfl, rfl, rfl, rfl, ?_, ⟨rfl, rfl⟩⟩
  rintro ⟨-, column⟩
  cases column

end Scenario.Grouping
