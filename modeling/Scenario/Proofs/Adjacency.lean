import Mathlib.Data.List.Chain
import Scenario.Proofs.Course
import Scenario.Proofs.Shape

/-! # Adjacent tokens

What stands between two tokens of a source that follow one another (`Adjacent`). The end of every
piece leaves something behind (`Trails`): at least one character after a segment of a label, exactly
a bar before the next segment, exactly a bracket after an inline tag. From this a reader of tokens
can tell by their offsets alone whether a segment goes on with the label before it.

The module also ties the line and column of a token to its offset (`Placed`).
-/

namespace Scenario.Adjacency

open Grammar Tiling Shape

/-- How a token stands to the one right before it. -/
structure Adjacent (options : Options) (source : List Char) (one next : Token) : Prop where
  link : Link source (some one) next
  onward : next.kind ≠ .endOfInput → one.start < next.start
  /-- A segment behind a bar is right behind the segment before it. A star stands further off. -/
  label : next.kind = .label →
    (opener source next = some '|' ∧ one.kind = .label ∧ next.start = one.stop + 1) ∨
      (opener source next = some '*' ∧ (one.kind = .label → one.stop + 1 < next.start))
  /-- Whatever follows a segment, the segment is closed before it. -/
  closed : one.kind = .label → one.stop + 1 ≤ next.start
  /-- Prose goes on right behind the bracket of an inline tag. -/
  prose : options.skipBlanks = false → one.inline = true → next.kind = .text →
    next.start = one.stop + 1

/-- What the last token before a place leaves behind there. -/
structure Trails (context : Context) (before rest : List Char) (one : Token) : Prop where
  start : one.start < before.length ∨ rest = []
  closed : one.kind = .label → one.stop + 1 ≤ before.length
  bar : context = .label →
    one.kind = .label ∧ one.stop + 1 = before.length ∧ before.getLast? = some '|'
  bracket : one.inline = true → one.stop + 1 = before.length ∨ rest = []

section Lexeme

variable {options : Options} {context after : Context} {piece : Piece} {p : Position}
  {before rest : List Char} (lexeme : Lexeme options context piece after rest)
  (offset : p.offset = before.length) (file : Option String)
include offset

private theorem start_token (piece : Piece) :
    (piece.token p file).start = ((before ++ piece.gap).length : Int) := by
  simp [Piece.token, Position.token, offset]

private theorem stop_token_eq (piece : Piece) :
    (piece.token p file).stop = ((before ++ piece.gap ++ piece.value).length : Int) := by
  rw [stop_token]
  simp [offset]

/-- The end of a segment leaves a character behind, and a bar where the label goes on. -/
private theorem trails_segment {closing : List Char} (ends : SegmentEnd closing after rest)
    (kind : piece.kind = .label) (plain : piece.inline = false) (closed : piece.closing = closing) :
    Trails after (before ++ piece.chars) rest (piece.token p file) := by
  have positive := List.length_pos_iff.2 ends.ne_nil
  have start := start_token offset file piece
  have stop := stop_token_eq offset file piece
  refine ⟨.inl ?_, ?_, ?_, ?_⟩
  · rw [start]
    simp only [Piece.chars, closed, List.length_append]
    omega
  · intro _
    rw [stop]
    simp only [Piece.chars, closed, List.length_append]
    omega
  · intro inside
    subst inside
    cases ends with
    | next fits =>
      refine ⟨kind, ?_, ?_⟩
      · rw [stop]
        simp only [Piece.chars, closed, List.length_append, List.length_singleton]
        omega
      · rw [Piece.chars, closed, ← List.append_assoc, ← List.append_assoc, List.getLast?_concat]
  · intro inline
    have same : (piece.token p file).inline = piece.inline := rfl
    rw [same, plain] at inline
    contradiction

include lexeme

theorem trails_of_lexeme : Trails after (before ++ piece.chars) rest (piece.token p file) := by
  have start := start_token offset file piece
  have stop := stop_token_eq offset file piece
  cases lexeme with
  | label free leads inside ends => exact trails_segment offset file ends rfl rfl rfl
  | segment inside ends => exact trails_segment offset file ends rfl rfl rfl
  | @directive _ lead value newline _ free leads inside ends =>
    have positive := List.length_pos_iff.2 ends.ne_nil
    refine ⟨.inl ?_, by simp [Piece.token, Position.token], by simp, ?_⟩
    · rw [start]
      simp only [Piece.chars, List.length_append]
      omega
    · simp [Piece.token, Position.token]
  | @tag _ lead value _ free leads inside single =>
    refine ⟨.inl ?_, by simp [Piece.token, Position.token], by simp, fun _ => .inl ?_⟩
    · rw [start]
      simp only [Piece.chars, List.length_append, List.length_singleton]
      omega
    · rw [stop]
      simp only [Piece.chars, List.length_append, List.length_singleton]
      omega
  | openTag lenient free leads inside single =>
    exact ⟨.inr rfl, by simp [Piece.token, Position.token], by simp, fun _ => .inr rfl⟩
  | @text lead value _ leads content prose stops first =>
    have positive := List.length_pos_iff.2 content
    refine ⟨.inl ?_, by simp [Piece.token, Position.token], by simp, ?_⟩
    · rw [start]
      simp only [Piece.chars, List.length_append]
      omega
    · simp [Piece.token, Position.token]

theorem adjacent_of_lexeme {one : Token} (precedes : Precedes context p (some one))
    (trails : Trails context before (piece.chars ++ rest) one) :
    Adjacent options (before ++ (piece.chars ++ rest)) one (piece.token p file) := by
  have content : piece.chars ++ rest ≠ [] := by simp [lexeme.chars_ne_nil]
  have start := start_token offset file piece
  have opened := opener_token offset piece file rest
  refine ⟨link_of_lexeme lexeme offset precedes file, ?_, ?_, ?_, ?_⟩
  · intro _
    have behind := trails.start.resolve_right content
    rw [start, List.length_append]
    omega
  · intro label
    rw [opened]
    cases lexeme with
    | @label _ _ lead value closing _ free leads inside ends =>
      refine .inr ⟨by simp [Piece.gap], fun closed => ?_⟩
      have behind := trails.closed closed
      rw [start]
      simp only [Piece.gap, List.length_append, List.length_singleton]
      omega
    | segment inside ends =>
      obtain ⟨kind, behind, bar⟩ := trails.bar rfl
      refine .inl ⟨by simpa [Piece.gap] using bar, kind, ?_⟩
      rw [start, behind]
      simp [Piece.gap]
    | _ => simp [Piece.token, Position.token] at label
  · intro closed
    have behind := trails.closed closed
    rw [start, List.length_append]
    omega
  · intro keep inline text
    have behind := (trails.bracket inline).resolve_right content
    have plain : piece.lead = [] := lexeme.leads.eq_nil keep
    cases lexeme with
    | text leads content prose stops first =>
      rw [start, behind]
      simp_all [Piece.gap]
    | _ => simp [Piece.token, Position.token] at text

end Lexeme

/-- The induction carries the token before the place, and what it leaves behind there. -/
theorem isChain_of_reads {options : Options} {file : Option String} {context : Context}
    {p : Position} {s : List Char} {reading : Reading} {one : Token}
    (reads : Reads options file context p s reading) (before : List Char)
    (offset : p.offset = before.length) (precedes : Precedes context p (some one))
    (trails : Trails context before s one) :
    (one :: reading.tokens).IsChain (Adjacent options (before ++ s)) := by
  induction reads generalizing before one with
  | @complete context p lead free leads =>
    have last : Reads options file context p lead _ := .complete free leads
    have linked := linked_of_reads last before offset precedes
    have start : ((p.after lead).token file .endOfInput [] false).start =
        ((before ++ lead).length : Int) := by
      simp [Position.token, offset]
    refine .cons_cons ⟨linked.1, by simp [Position.token], by simp [Position.token], ?_, ?_⟩
      (.singleton _)
    · intro closed
      have behind := trails.closed closed
      rw [start, List.length_append]
      omega
    · simp [Position.token]
  | broken unfinished => exact .singleton one
  | @piece context after p piece rest reading lexeme reads ih =>
    have chain := ih (before ++ piece.chars) (by simp [offset])
      (precedes_of_lexeme lexeme p file) (trails_of_lexeme lexeme offset file)
    rw [List.append_assoc] at chain
    exact .cons_cons (adjacent_of_lexeme lexeme offset file precedes trails) chain

/-! ## All tokens of a source -/

/-- The line and the column of a token are those of its start. -/
def Placed (source : List Char) (token : Token) : Prop :=
  token.line = (Position.ofOffset source token.start.toNat).line ∧
    token.column = (Position.ofOffset source token.start.toNat).column

theorem placed_token (before gap value rest : List Char) (file : Option String) (kind : Kind)
    (inline : Bool) :
    Placed (before ++ (gap ++ rest))
      (((Position.start.after before).after gap).token file kind value inline) := by
  have here := Position.start_after (before ++ gap) rest
  have start : ((Position.start.after (before ++ gap)).token file kind value inline).start.toNat =
      (before ++ gap).length := by
    change ((Position.start.after (before ++ gap)).offset : Int).toNat = _
    rw [Int.toNat_natCast, Position.offset_after]
    exact Nat.zero_add _
  rw [← Position.after_append, Placed, start, ← List.append_assoc, ← here]
  exact ⟨rfl, rfl⟩

theorem placed_of_reads {options : Options} {file : Option String} {context : Context}
    {p : Position} {s : List Char} {reading : Reading}
    (reads : Reads options file context p s reading) (before : List Char)
    (place : p = Position.start.after before) :
    ∀ token ∈ reading.tokens, Placed (before ++ s) token := by
  induction reads generalizing before with
  | @complete context p lead free leads =>
    intro token member
    obtain rfl : token = _ := List.mem_singleton.1 member
    subst place
    have placed := placed_token before lead [] [] file .endOfInput false
    rwa [List.append_nil] at placed
  | broken unfinished =>
    intro token member
    simp at member
  | @piece context after p piece rest reading lexeme reads ih =>
    intro token member
    rcases List.mem_cons.1 member with rfl | member
    · subst place
      rw [Piece.chars, List.append_assoc]
      exact placed_token before piece.gap piece.value _ file piece.kind piece.inline
    · have there : p.after piece.chars = Position.start.after (before ++ piece.chars) := by
        rw [Position.after_append, place]
      have placed := ih (before ++ piece.chars) there token member
      rwa [List.append_assoc] at placed

/-- The tokens of a source before the end of the input, and that end. -/
structure Laid (options : Options) (source : String) (front : List Token) (last : Token) :
    Prop where
  kind : ∀ token ∈ front, token.kind ≠ .endOfInput
  ended : last.kind = .endOfInput ∧ last.start = (source.length : Int) ∧
    last.stop = (source.length : Int)
  chain : (front ++ [last]).IsChain (Adjacent options source.toList)
  /-- Nothing comes before the first token. -/
  first : ∀ token ∈ front.head?, Link source.toList none token ∧
    (token.kind = .label → opener source.toList token = some '*')
  occurs : ∀ token ∈ front, Occurs source.toList token
  placed : ∀ token ∈ front ++ [last], Placed source.toList token
  content : ∀ token ∈ front, Content options source.toList token

private theorem isChain_tokens {options : Options} {file : Option String} {s : List Char}
    {reading : Reading} (reads : Reads options file .line .start s reading) :
    reading.tokens.IsChain (Adjacent options s) := by
  cases reads with
  | complete free leads => exact .singleton _
  | broken unfinished => exact .nil
  | @piece _ after _ piece rest reading lexeme reads =>
    have offset : Position.start.offset = ([] : List Char).length := rfl
    exact isChain_of_reads reads piece.chars (by simp [Position.start])
      (precedes_of_lexeme lexeme .start file) (trails_of_lexeme lexeme offset file)

private theorem opener_head {options : Options} {file : Option String} {s : List Char}
    {reading : Reading} (reads : Reads options file .line .start s reading) :
    ∀ token ∈ reading.tokens.head?, token.kind = .label → opener s token = some '*' := by
  cases reads with
  | complete free leads => simp [Position.token]
  | broken unfinished => simp
  | @piece _ after _ piece rest reading lexeme reads =>
    rintro token ⟨⟩ label
    have offset : Position.start.offset = ([] : List Char).length := rfl
    have opened := opener_token offset piece file rest
    rw [List.nil_append] at opened
    rw [opened]
    cases lexeme with
    | label free leads inside ends => simp [Piece.gap]
    | _ => simp [Piece.token, Position.token] at label

theorem exists_laid {source : String} {file : Option String} {options : Options}
    {tokens : List Token} (ok : tokenize source file options = .ok tokens) :
    ∃ front last, tokens = front ++ [last] ∧ Laid options source front last := by
  obtain ⟨reading, reads, complete, rfl⟩ := Scan.tokenize_eq_ok_iff.1 ok
  have stream := stream_of_reads reads complete
  obtain ⟨front, last, same, kind, ended, -, start, stop⟩ := stream.ended
  have chain := isChain_tokens reads
  have occurs := occurs_of_reads reads [] rfl
  have placed := placed_of_reads reads [] rfl
  have content := stream.content
  have linked := stream.linked
  have head := opener_head reads
  rw [same] at chain occurs placed content linked head
  refine ⟨front, last, same, kind, ⟨ended, start, stop⟩, chain, ?_, ?_, placed, ?_⟩
  · cases front with
    | nil => simp
    | cons token front =>
      rintro _ ⟨⟩
      exact ⟨linked.1, head token rfl⟩
  · exact fun token member => occurs token (List.mem_append_left _ member)
  · exact fun token member => content token (List.mem_append_left _ member)

end Scenario.Adjacency
