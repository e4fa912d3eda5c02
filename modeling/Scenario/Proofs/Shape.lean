import Scenario.Proofs.Driving
import Scenario.Proofs.Tiling

/-! # The shape of a token stream

What holds of the tokens of any source: of each token alone (`Content`), of a token and the one
right before it (`Link`), and of all of them together (`Stream`). A reading that breaks off keeps
the first two; only a complete one has the end of the input, once and last.
-/

namespace Scenario.Shape

open Grammar Tiling

/-- The character right before a token. -/
def opener (source : List Char) (token : Token) : Option Char :=
  (source.take token.start.toNat).getLast?

/-- What a token of each kind may hold. -/
def Content (options : Options) (source : List Char) (token : Token) : Prop :=
  let value := token.value.toList
  match token.kind with
  | .text =>
      value ≠ [] ∧ '@' ∉ value ∧ '*' ∉ value ∧ bracketsPaired value = true ∧
        (options.skipBlanks = true → ∀ c ∈ value.head?, c ∉ [' ', '\t', '\r', '\n'])
  | .label => '|' ∉ value ∧ '\r' ∉ value ∧ '\n' ∉ value
  | .tag =>
      (opener source token = some '@' ∧ '\r' ∉ value ∧ '\n' ∉ value ∧ token.inline = false) ∨
        (opener source token = some '[' ∧ ']' ∉ value ∧ value.head? ≠ some '[')
  | .endOfInput => value = []

/-- How a token stands to the one right before it, if there is one. -/
structure Link (source : List Char) (previous : Option Token) (token : Token) : Prop where
  ordered : ∀ other ∈ previous, other.stop ≤ token.start
  apart : ∀ other ∈ previous, ¬(other.kind = .text ∧ token.kind = .text)
  /-- Inline is what a bracket opens right after prose on the same line, and nothing else. -/
  inline : token.inline = true ↔
    token.kind = .tag ∧ opener source token = some '[' ∧
      ∃ other ∈ previous, other.kind = .text ∧ other.stop = token.start - 1 ∧
        endsInNewline other.value.toList = false

/-- Every token stands so to the one before it. -/
def Linked (source : List Char) : Option Token → List Token → Prop
  | _, [] => True
  | previous, token :: rest => Link source previous token ∧ Linked source (some token) rest

/-- The tokens of a source that is read to its end. -/
structure Stream (options : Options) (source : String) (tokens : List Token) : Prop where
  bounds : ∀ token ∈ tokens,
    0 ≤ token.start ∧ token.start ≤ token.stop ∧ token.stop ≤ source.length
  content : ∀ token ∈ tokens, Content options source.toList token
  linked : Linked source.toList none tokens
  /-- The end of the input comes once, and last. -/
  ended : ∃ front last, tokens = front ++ [last] ∧ (∀ token ∈ front, token.kind ≠ .endOfInput) ∧
    last.kind = .endOfInput ∧ last.value = "" ∧ last.start = (source.length : Int) ∧
    last.stop = (source.length : Int)

/-! ## One token -/

theorem opener_token {p : Position} {before : List Char} (offset : p.offset = before.length)
    (piece : Piece) (file : Option String) (rest : List Char) :
    opener (before ++ (piece.chars ++ rest)) (piece.token p file) =
      (before ++ piece.gap).getLast? := by
  have start : (piece.token p file).start.toNat = (before ++ piece.gap).length := by
    simp only [Piece.token, Position.token, Position.offset_after, offset, List.length_append]
    omega
  have split : before ++ (piece.chars ++ rest) =
      (before ++ piece.gap) ++ (piece.value ++ (piece.closing ++ rest)) := by
    simp [Piece.chars]
  rw [opener, start, split, List.take_left]

theorem content_of_lexeme {options : Options} {context after : Context} {piece : Piece}
    {p : Position} {before rest : List Char} (lexeme : Lexeme options context piece after rest)
    (offset : p.offset = before.length) (file : Option String) :
    Content options (before ++ (piece.chars ++ rest)) (piece.token p file) := by
  have opened := opener_token offset piece file rest
  have value : (piece.token p file).value.toList = piece.value := String.toList_ofList
  have kind : (piece.token p file).kind = piece.kind := rfl
  rw [Content, value, kind, opened]
  cases lexeme with
  | directive free leads inside ends =>
    obtain ⟨carriage, feed⟩ := absent_of_not_isNewline inside
    exact .inl ⟨by simp [Piece.gap], carriage, feed, rfl⟩
  | tag free leads inside single =>
    exact .inr ⟨by simp [Piece.gap], fun member => inside _ member rfl, single⟩
  | openTag lenient free leads inside single =>
    exact .inr ⟨by simp [Piece.gap], fun member => inside _ member rfl, single⟩
  | label free leads inside ends => exact absent_of_not_endsSegment inside
  | segment inside ends => exact absent_of_not_endsSegment inside
  | text leads content prose stops first =>
    obtain ⟨noDirective, noLabel, paired⟩ := isProse_iff.1 prose
    refine ⟨content, noDirective, noLabel, paired, ?_⟩
    intro skip c head
    simpa [Delimiter.isBlank, Delimiter.isNewline, and_assoc] using first skip c head

/-! ## A token and the one before it -/

/-- What a context says of the token before a place. -/
def Precedes (context : Context) (p : Position) (previous : Option Token) : Prop :=
  (∀ other ∈ previous, other.stop ≤ p.offset) ∧
    match context with
    | .prose inline =>
        ∃ other, previous = some other ∧ other.kind = .text ∧ other.stop = p.offset ∧
          inline = !endsInNewline other.value.toList
    | _ => ∀ other ∈ previous, other.kind ≠ .text

theorem stop_token (piece : Piece) (p : Position) (file : Option String) :
    (piece.token p file).stop = ((p.after (piece.gap ++ piece.value)).offset : Int) := by
  simp only [Piece.token, Position.token, Position.offset_after, List.length_append]
  omega

/-- A piece is the one before what follows it. -/
theorem precedes_of_lexeme {options : Options} {context after : Context} {piece : Piece}
    {rest : List Char} (lexeme : Lexeme options context piece after rest) (p : Position)
    (file : Option String) :
    Precedes after (p.after piece.chars) (some (piece.token p file)) := by
  constructor
  · rintro other ⟨⟩
    rw [stop_token, Piece.chars]
    simp only [Position.offset_after, List.length_append]
    omega
  · cases lexeme with
    | text leads content prose stops first =>
      refine ⟨_, rfl, rfl, ?_, ?_⟩
      · rw [stop_token]
        simp [Piece.chars]
      · rw [Piece.token, Position.token, String.toList_ofList]
    | label free leads inside ends =>
      cases ends <;> simp [Piece.token, Position.token]
    | segment inside ends =>
      cases ends <;> simp [Piece.token, Position.token]
    | _ => simp [Piece.token, Position.token]

/-- A tag that a bracket opens is inline just if the context before it says so. -/
private theorem inline_iff {options : Options} {context : Context} {p : Position}
    {previous : Option Token} {lead : List Char} (precedes : Precedes context p previous)
    (leads : context.Leads options lead) :
    context.inline = true ↔ ∃ other ∈ previous, other.kind = .text ∧
      other.stop = (p.offset + lead.length : Int) ∧ endsInNewline other.value.toList = false := by
  cases context with
  | prose inline =>
    obtain ⟨-, other, rfl, text, stop, rfl⟩ := precedes
    obtain rfl : lead = [] := leads
    simp [Context.inline, text, stop]
  | line | label =>
    simp only [Context.inline, Bool.false_eq_true, false_iff]
    rintro ⟨other, member, text, -⟩
    exact precedes.2 other member text

private theorem inline_token {options : Options} {context : Context} {p : Position}
    {previous : Option Token} {piece : Piece} (kind : piece.kind = .tag)
    (opening : piece.opening = ['[']) (inline : piece.inline = context.inline)
    (leads : context.Leads options piece.lead) (precedes : Precedes context p previous)
    (before : List Char) (file : Option String) :
    (piece.token p file).inline = true ↔
      (piece.token p file).kind = .tag ∧ (before ++ piece.gap).getLast? = some '[' ∧
        ∃ other ∈ previous, other.kind = .text ∧ other.stop = (piece.token p file).start - 1 ∧
          endsInNewline other.value.toList = false := by
  have start : (piece.token p file).start - 1 = (p.offset + piece.lead.length : Int) := by
    simp only [Piece.token, Position.token, Position.offset_after, Piece.gap, opening,
      List.length_append, List.length_singleton]
    omega
  have last : (before ++ piece.gap).getLast? = some '[' := by
    rw [Piece.gap, opening, ← List.append_assoc, List.getLast?_concat]
  have same : (piece.token p file).inline = context.inline := inline
  rw [start, last, same, inline_iff precedes leads]
  exact ⟨fun text => ⟨kind, rfl, text⟩, fun both => both.2.2⟩

theorem link_of_lexeme {options : Options} {context after : Context} {piece : Piece}
    {p : Position} {before rest : List Char} {previous : Option Token}
    (lexeme : Lexeme options context piece after rest) (offset : p.offset = before.length)
    (precedes : Precedes context p previous) (file : Option String) :
    Link (before ++ (piece.chars ++ rest)) previous (piece.token p file) where
  ordered := by
    intro other member
    have stop := precedes.1 other member
    simp only [Piece.token, Position.token, Position.offset_after]
    omega
  apart := by
    rintro other member ⟨text, same⟩
    cases lexeme with
    | text leads content prose stops first => exact precedes.2 other member text
    | _ => simp [Piece.token, Position.token] at same
  inline := by
    have opened := opener_token offset piece file rest
    rw [opened]
    cases lexeme with
    | tag free leads inside single => exact inline_token rfl rfl rfl leads precedes before file
    | openTag lenient free leads inside single =>
      exact inline_token rfl rfl rfl leads precedes before file
    | _ => simp [Piece.token, Position.token, Piece.gap]

/-! ## Whole streams -/

theorem content_of_reads {options : Options} {file : Option String} {context : Context}
    {p : Position} {s : List Char} {reading : Reading}
    (reads : Reads options file context p s reading) (before : List Char)
    (offset : p.offset = before.length) :
    ∀ token ∈ reading.tokens, Content options (before ++ s) token := by
  induction reads generalizing before with
  | complete free leads =>
    intro token member
    obtain rfl : token = _ := List.mem_singleton.1 member
    rfl
  | broken unfinished =>
    intro token member
    simp at member
  | @piece context after p piece rest reading lexeme reads ih =>
    intro token member
    rcases List.mem_cons.1 member with rfl | member
    · exact content_of_lexeme lexeme offset file
    · have content := ih (before ++ piece.chars) (by simp [offset]) token member
      rwa [List.append_assoc] at content

/-- The induction carries what the context says of the token before. -/
theorem linked_of_reads {options : Options} {file : Option String} {context : Context}
    {p : Position} {s : List Char} {reading : Reading} {previous : Option Token}
    (reads : Reads options file context p s reading) (before : List Char)
    (offset : p.offset = before.length) (precedes : Precedes context p previous) :
    Linked (before ++ s) previous reading.tokens := by
  induction reads generalizing before previous with
  | @complete context p lead free leads =>
    refine ⟨⟨?_, ?_, ?_⟩, trivial⟩
    · intro other member
      have stop := precedes.1 other member
      simp only [Position.token, Position.offset_after]
      omega
    · simp [Position.token]
    · simp [Position.token]
  | broken unfinished => trivial
  | @piece context after p piece rest reading lexeme reads ih =>
    refine ⟨link_of_lexeme lexeme offset precedes file, ?_⟩
    have linked :=
      ih (before ++ piece.chars) (by simp [offset]) (precedes_of_lexeme lexeme p file)
    rwa [List.append_assoc] at linked

/-- A complete reading ends with the end of the input, behind everything that was read. -/
theorem ended_of_reads {options : Options} {file : Option String} {context : Context}
    {p : Position} {s : List Char} {reading : Reading}
    (reads : Reads options file context p s reading) (complete : reading.ending = .complete) :
    ∃ front, reading.tokens = front ++ [(p.after s).token file .endOfInput [] false] ∧
      ∀ token ∈ front, token.kind ≠ .endOfInput := by
  induction reads with
  | complete free leads => exact ⟨[], rfl, by simp⟩
  | broken unfinished => cases complete
  | @piece context after p piece rest reading lexeme reads ih =>
    obtain ⟨front, same, other⟩ := ih complete
    refine ⟨piece.token p file :: front, ?_, ?_⟩
    · rw [Reading.cons, same, Position.after_append]
      rfl
    · intro token member
      rcases List.mem_cons.1 member with rfl | member
      · exact lexeme.kind_ne_endOfInput
      · exact other token member

theorem stream_of_reads {options : Options} {file : Option String} {source : String}
    {reading : Reading} (reads : Reads options file .line .start source.toList reading)
    (complete : reading.ending = .complete) : Stream options source reading.tokens where
  bounds := by
    intro token member
    have bounds := (occurs_of_reads reads [] rfl token member).bounds
    rwa [List.nil_append, String.length_toList] at bounds
  content := content_of_reads reads [] rfl
  linked := linked_of_reads reads [] rfl ⟨by simp, by simp⟩
  ended := by
    obtain ⟨front, same, other⟩ := ended_of_reads reads complete
    refine ⟨front, _, same, other, rfl, rfl, ?_, ?_⟩
    · simp [Position.token, Position.start, String.length_toList]
    · simp [Position.token, Position.start, String.length_toList]

open Session in
/-- Scanning a fresh cursor to the end, before listeners who leave the scan alone, comes to an end:
with a fault of the source, or with a stream of the known shape delivered in order. -/
theorem exec_pass_stream {session : Session} {number : Nat} {source : String}
    {file : Option String} {options : Options} {registry : Registry} {holds : Session → Prop}
    (found : session.scanners[number]? = some ⟨.ofSource source file options, registry⟩)
    (quiet : Undisturbed number registry.subscriptions holds) (held : holds session) :
    ∃ result after, Yields (exec · (.pass number)) session result after ∧
      Delivers number (Scan.pass (.ofSource source file options)).tokens session after ∧
      ((∃ fault, result = .error (.fault fault)) ∨
        result = .ok {} ∧
          Stream options source (Scan.pass (.ofSource source file options)).tokens) := by
  obtain ⟨after, yields, delivers, -⟩ := exists_yields_pass quiet held found
  obtain ⟨reading, reads, follows⟩ := Scan.exists_follows_pass source file options
  refine ⟨_, after, yields, delivers, ?_⟩
  rw [outcome, follows.fault, follows.tokens]
  cases ending : reading.ending with
  | complete => exact .inr ⟨rfl, stream_of_reads reads ending⟩
  | broken fault pending => exact .inl ⟨fault, rfl⟩

open Session in
/-- Blanks, prose with a tag inside, a label, and a tag that is left open. -/
theorem exec_pass_stream_mixed :
    ∃ after,
      Yields (exec · (.pass 0))
        (audience (.ofSource " \ta[b] \r\n*p|q\n[o" none { skipBlanks := true })) (.ok {}) after ∧
      Stream { skipBlanks := true } " \ta[b] \r\n*p|q\n[o"
        (Scan.pass (.ofSource " \ta[b] \r\n*p|q\n[o" none { skipBlanks := true })).tokens := by
  have found : (audience (.ofSource " \ta[b] \r\n*p|q\n[o" none
      { skipBlanks := true })).scanners[0]? = some _ := rfl
  have passed : (Scan.pass (.ofSource " \ta[b] \r\n*p|q\n[o" none
      { skipBlanks := true })).fault = none := by
    cbv
  obtain ⟨after, yields, -⟩ :=
    exists_yields_pass (undisturbed_passive 0 _) (passive_audience _) found
  rw [outcome, passed] at yields
  obtain ⟨result, other, again, -, ends⟩ :=
    exec_pass_stream found (undisturbed_passive 0 _) (passive_audience _)
  obtain ⟨rfl, rfl⟩ := again.unique yields
  rcases ends with ⟨fault, failed⟩ | ⟨-, stream⟩
  · cases failed
  · exact ⟨_, yields, stream⟩

end Scenario.Shape
