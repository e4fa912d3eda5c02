import Scenario.Proofs.Blanks
import Scenario.Proofs.Labels

/-! # Statements of a WebGAL script

What is written for a source can be told from its tokens one by one, without the memory of the
printer: prose gives one statement for each line of it that is not blank, and a segment gives one if
a star opens it (`toWebGal_eq_map`). From this follows that blanks before a line make no difference
to the output (`toWebGal_skipBlanks`), because splitting prose into lines and trimming these takes
the same blanks away, and that the output can be read back (`toWebGal_written`).
-/

namespace Scenario.WebGal

open Adjacency

/-- What is written for a source is what its tokens give one by one. -/
theorem toWebGal_eq_map (source : String) (file : Option String) (options : Options) :
    toWebGal source file options =
      (tokenize source file options).map fun tokens =>
        render (tokens.flatMap (statementsOf source)) := by
  unfold toWebGal
  cases ok : tokenize source file options with
  | error fault => rfl
  | ok tokens =>
    obtain ⟨front, last, rfl, laid⟩ := exists_laid ok
    show Except.ok (render (ofTokens (front ++ [last]))) = _
    rw [ofTokens_eq_flatMap laid]
    rfl

/-! ## Blanks before a line -/

@[simp] theorem trim_cons_space {c : Char} (space : Text.isSpace c = true) (s : List Char) :
    Text.trim (c :: s) = Text.trim s := by
  rw [Text.trim, Text.trim, List.dropWhile_cons_of_pos space]

/-- The lines of a text that are not blank, as lists of characters. -/
def contents (s : List Char) : List (List Char) :=
  ((Text.lines s).map Text.trim).filter fun line => !line.isEmpty

theorem sayings_eq (s : String) : sayings s = (contents s.toList).map String.ofList := rfl

theorem contents_consLine {c : Char} (space : Text.isSpace c = true) (lines : List (List Char)) :
    ((Text.consLine c lines).map Text.trim).filter (fun line => !line.isEmpty) =
      (lines.map Text.trim).filter fun line => !line.isEmpty := by
  cases lines with
  | nil => simp [Text.consLine, space, Text.trim]
  | cons line lines => simp [Text.consLine, space]

/-- Space at the start of a text adds nothing to its lines: it ends a line that is blank, or is
trimmed away. A line feed that loses the carriage return before it still ends one line. -/
theorem contents_cons_space {c : Char} (space : Text.isSpace c = true) (s : List Char) :
    contents (c :: s) = contents s := by
  have blank : Text.trim [] = [] := rfl
  by_cases paired : c = '\r' ∧ ∃ rest, s = '\n' :: rest
  · obtain ⟨rfl, rest, rfl⟩ := paired
    have feed : Text.lines ('\n' :: rest) = [] :: Text.lines rest := by
      rw [Text.lines.eq_3 _ _ (by simp)]
      exact if_pos rfl
    rw [contents, contents, Text.lines, feed]
  · have single : ∀ rest, c = '\r' → s = '\n' :: rest → False :=
      fun rest isReturn isFeed => paired ⟨isReturn, rest, isFeed⟩
    rw [contents, Text.lines.eq_3 _ _ single]
    split
    · simp [contents, blank]
    · exact contents_consLine space (Text.lines s)

theorem isSpace_of_isBlank {c : Char} (blank : Delimiter.isBlank c = true) :
    Text.isSpace c = true := by
  simp only [Delimiter.isBlank, Delimiter.isNewline, Bool.or_eq_true, beq_iff_eq] at blank
  rcases blank with (rfl | rfl) | rfl | rfl <;> rfl

theorem contents_dropWhile (s : List Char) :
    contents (s.dropWhile Delimiter.isBlank) = contents s := by
  induction s with
  | nil => rfl
  | cons c s ih =>
    by_cases blank : Delimiter.isBlank c = true
    · rw [List.dropWhile_cons_of_pos blank, ih, contents_cons_space (isSpace_of_isBlank blank)]
    · rw [List.dropWhile_cons_of_neg blank]

theorem sayings_of_blank {s : String} (blank : s.toList.all Delimiter.isBlank = true) :
    sayings s = [] := by
  have none : s.toList.dropWhile Delimiter.isBlank = [] := by
    simpa [List.dropWhile_eq_nil_iff] using blank
  rw [sayings_eq, ← contents_dropWhile, none]
  rfl

theorem statementsOf_trim {source : String} {token : Token} (kind : token.kind = .text) :
    statementsOf source (Blanks.trim source.toList token) = statementsOf source token := by
  have text : (Blanks.trim source.toList token).kind = .text := kind
  have value : (Blanks.trim source.toList token).value =
      String.ofList (token.value.toList.dropWhile Delimiter.isBlank) := rfl
  simp only [statementsOf, kind, text, value, sayings_eq, String.toList_ofList,
    contents_dropWhile]

theorem flatMap_trimmed (source : String) (kept : Bool) (tokens : List Token) :
    (Blanks.trimmed source.toList kept tokens).flatMap (statementsOf source) =
      tokens.flatMap (statementsOf source) := by
  induction tokens generalizing kept with
  | nil => rfl
  | cons token rest ih =>
    unfold Blanks.trimmed
    by_cases kind : token.kind = .text
    · rw [if_pos kind]
      by_cases blank : token.value.toList.all Delimiter.isBlank = true
      · have none : statementsOf source token = [] := by
          simp [statementsOf, kind, sayings_of_blank blank]
        rw [if_pos blank, ih, List.flatMap_cons, none, List.nil_append]
      · rw [if_neg blank, List.flatMap_cons, ih, statementsOf_trim kind, List.flatMap_cons]
    · rw [if_neg kind, List.flatMap_cons, ih, List.flatMap_cons]
      rfl

/-- The output does not depend on whether blanks before a line are skipped, and neither does the
fault that there may be instead. -/
theorem toWebGal_skipBlanks (source : String) (file : Option String) (strict : Bool) :
    toWebGal source file { strictTags := strict, skipBlanks := true } =
      toWebGal source file { strictTags := strict, skipBlanks := false } := by
  obtain ⟨fault, -, tokens⟩ := Blanks.pass_trimmed source file strict
  rw [toWebGal_eq_map, toWebGal_eq_map, tokenize, tokenize, Scan.Pass.result, Scan.Pass.result,
    fault, tokens]
  split
  · exact congrArg (fun statements => Except.ok (render statements)) (flatMap_trimmed _ _ _)
  · rfl

/-! ## Reading the output back -/

/-- The statement that a line is written for. -/
def Statement.ofLine? : List Char → Option Statement
  | ':' :: rest => some (.say (String.ofList rest.dropLast))
  | 'l' :: 'a' :: 'b' :: 'e' :: 'l' :: ':' :: rest => some (.label (String.ofList rest.dropLast))
  | _ => none

@[simp] theorem Statement.ofLine?_line (statement : Statement) :
    Statement.ofLine? statement.line = some statement := by
  cases statement with
  | say line => simp [Statement.line, Statement.ofLine?]
  | label name => simp [Statement.line, Statement.ofLine?]

/-- The statements that an output is written for. -/
def decode (output : String) : List Statement :=
  (output.toList.splitOn '\n').filterMap Statement.ofLine?

theorem decode_render {statements : List Statement}
    (plain : ∀ statement ∈ statements, '\n' ∉ statement.line) :
    decode (render statements) = statements := by
  have read : Statement.ofLine? ∘ Statement.line = some := funext Statement.ofLine?_line
  rw [decode, splitOn_render plain, List.filterMap_append, List.filterMap_map, read,
    List.filterMap_some]
  exact List.append_nil statements

/-- An output is one line for each statement of a source, and can be read back. -/
structure Written (source : String) (tokens : List Token) (output : String) : Prop where
  joined : output = String.join ((tokens.flatMap (statementsOf source)).map fun statement =>
    String.ofList statement.line ++ "\n")
  plain : ∀ statement ∈ tokens.flatMap (statementsOf source), statement.Plain
  lines : output.toList.splitOn '\n' =
    (tokens.flatMap (statementsOf source)).map Statement.line ++ [[]]
  decoded : decode output = tokens.flatMap (statementsOf source)

theorem exists_written {source : String} {file : Option String} {options : Options}
    {output : String} (ok : toWebGal source file options = .ok output) :
    ∃ tokens, tokenize source file options = .ok tokens ∧
      output = render (tokens.flatMap (statementsOf source)) ∧ Written source tokens output := by
  rw [toWebGal_eq_map] at ok
  cases scanned : tokenize source file options with
  | error fault =>
    rw [scanned] at ok
    cases ok
  | ok tokens =>
    rw [scanned] at ok
    cases ok
    obtain ⟨front, last, same, laid⟩ := exists_laid scanned
    have plain : ∀ statement ∈ tokens.flatMap (statementsOf source), statement.Plain := by
      rw [same]
      exact plain_laid laid
    have whole : ∀ statement ∈ tokens.flatMap (statementsOf source), '\n' ∉ statement.line :=
      fun statement member => (plain statement member).not_mem_line
    refine ⟨tokens, rfl, rfl, ?_, plain, splitOn_render whole, decode_render whole⟩
    refine congrArg String.join (List.map_congr_left fun statement _ => ?_)
    rw [← String.ofList_toList (s := statement.render), toList_render, String.ofList_append]

/-- The output for a source is one line for each of its statements, which can be read back from it.
So two sources have the same output just if they have the same statements. -/
theorem toWebGal_written {source : String} {file : Option String} {options : Options}
    {output : String} (ok : toWebGal source file options = .ok output) :
    ∃ tokens, tokenize source file options = .ok tokens ∧ Written source tokens output ∧
      ∀ {other : String} {otherFile : Option String} {otherOptions : Options} {result : String},
        toWebGal other otherFile otherOptions = .ok result →
        ∃ rest, tokenize other otherFile otherOptions = .ok rest ∧
          (output = result ↔
            tokens.flatMap (statementsOf source) = rest.flatMap (statementsOf other)) := by
  obtain ⟨tokens, scanned, rendered, written⟩ := exists_written ok
  refine ⟨tokens, scanned, written, ?_⟩
  intro other otherFile otherOptions result fine
  obtain ⟨rest, also, again, alike⟩ := exists_written fine
  refine ⟨rest, also, ?_, ?_⟩
  · intro same
    rw [← written.decoded, ← alike.decoded, same]
  · intro same
    rw [rendered, again, same]

/-- Two sources with different tokens and the same statements. -/
theorem toWebGal_written_alike :
    ∃ tokens rest, tokenize "*a|b\n  x\x0b y \r\n[t]*c\n" none {} = .ok tokens ∧
      tokenize "*a\nx\n\ny*c\n" none { skipBlanks := true } = .ok rest ∧
      Written "*a|b\n  x\x0b y \r\n[t]*c\n" tokens "label:a;\n:x;\n:y;\nlabel:c;\n" ∧
      tokens.flatMap (statementsOf "*a|b\n  x\x0b y \r\n[t]*c\n") =
        [.label "a", .say "x", .say "y", .label "c"] ∧
      rest.flatMap (statementsOf "*a\nx\n\ny*c\n") =
        [.label "a", .say "x", .say "y", .label "c"] := by
  have scanned : tokenize "*a|b\n  x\x0b y \r\n[t]*c\n" none {} = .ok
      [{ kind := .label, value := "a", column := 2, start := 1, stop := 2 },
        { kind := .label, value := "b", column := 4, start := 3, stop := 4 },
        { kind := .text, value := "  x\x0b y \r\n", line := 2, start := 5, stop := 14 },
        { kind := .tag, value := "t", line := 3, column := 2, start := 15, stop := 16 },
        { kind := .label, value := "c", line := 3, column := 5, start := 18, stop := 19 },
        { kind := .endOfInput, value := "", line := 4, start := 20, stop := 20 }] := by
    cbv
  have also : tokenize "*a\nx\n\ny*c\n" none { skipBlanks := true } = .ok
      [{ kind := .label, value := "a", column := 2, start := 1, stop := 2 },
        { kind := .text, value := "x\n\ny", line := 2, start := 3, stop := 7 },
        { kind := .label, value := "c", line := 4, column := 3, start := 8, stop := 9 },
        { kind := .endOfInput, value := "", line := 5, start := 10, stop := 10 }] := by
    cbv
  have ok : toWebGal "*a|b\n  x\x0b y \r\n[t]*c\n" none {} =
      .ok "label:a;\n:x;\n:y;\nlabel:c;\n" := by
    rw [toWebGal_eq_map, scanned]
    decide +kernel
  have equal : toWebGal "*a\nx\n\ny*c\n" none { skipBlanks := true } =
      .ok "label:a;\n:x;\n:y;\nlabel:c;\n" := by
    rw [toWebGal_eq_map, also]
    decide +kernel
  obtain ⟨tokens, first, written, alike⟩ := toWebGal_written ok
  obtain ⟨rest, second, same⟩ := alike equal
  have statements : tokens.flatMap (statementsOf "*a|b\n  x\x0b y \r\n[t]*c\n") =
      [.label "a", .say "x", .say "y", .label "c"] := by
    rw [← written.decoded]
    decide +kernel
  exact ⟨tokens, rest, first, second, written, statements, (same.1 rfl).symm.trans statements⟩

end Scenario.WebGal
