import Scenario.Fault
import Scenario.Proofs.Cursor

/-! # The grammar of a scenario

A source is a row of pieces: each is one token with the delimiters around it. This module says
which pieces may stand where (`Lexeme`), which beginnings of a piece cannot be finished
(`Unfinished`), and what a whole source reads as (`Reads`), all of it on plain lists of characters
and without a cursor. The main statement is that every source reads as something
(`exists_reads`).
-/

namespace Scenario.Grammar

/-- What stands right before a place in a source, as far as it decides how to read on there. -/
inductive Context where
  /-- Nothing that matters. -/
  | line
  /-- Prose, after which a tag is inline or not. -/
  | prose (inline : Bool)
  /-- A bar inside a label. -/
  | label
  deriving DecidableEq

/-- Whether a tag is inline. -/
def Context.inline : Context → Bool
  | .prose inline => inline
  | _ => false

/-- Text without `@` and `*`, in which opening brackets come in pairs. -/
def isProse : List Char → Bool
  | [] => true
  | '[' :: '[' :: rest => isProse rest
  | c :: rest => !Delimiter.opensMarkup c && isProse rest

/-- Whether opening brackets come in pairs, read from the left. -/
def bracketsPaired : List Char → Bool
  | [] => true
  | '[' :: '[' :: rest => bracketsPaired rest
  | c :: rest => c != '[' && bracketsPaired rest

theorem isProse_iff {s : List Char} :
    isProse s = true ↔ '@' ∉ s ∧ '*' ∉ s ∧ bracketsPaired s = true := by
  fun_induction isProse s with
  | case1 => simp [bracketsPaired]
  | case2 rest ih => simpa [bracketsPaired] using ih
  | case3 c rest single ih =>
    rw [bracketsPaired.eq_3 _ _ single]
    simp only [Delimiter.opensMarkup, Bool.not_or, Bool.and_eq_true, ih, List.mem_cons, not_or,
      bne_iff_ne, Bool.not_eq_true', beq_eq_false_iff_ne, ne_eq]
    constructor
    · rintro ⟨⟨⟨directive, label⟩, tag⟩, noDirective, noLabel, paired⟩
      exact ⟨⟨Ne.symm directive, noDirective⟩, ⟨Ne.symm label, noLabel⟩, tag, paired⟩
    · rintro ⟨⟨directive, noDirective⟩, ⟨label, noLabel⟩, tag, paired⟩
      exact ⟨⟨⟨Ne.symm directive, Ne.symm label⟩, tag⟩, noDirective, noLabel, paired⟩

/-- Whether prose cannot go on with the given text. -/
def stopsProse : List Char → Bool
  | [] => true
  | '[' :: '[' :: _ => false
  | c :: _ => Delimiter.opensMarkup c

/-- Prose stops at what opens markup, except at a pair of brackets. -/
theorem stopsProse_cons {c : Char} {rest : List Char} :
    stopsProse (c :: rest) = true ↔
      Delimiter.opensMarkup c = true ∧ (c = '[' → rest.head? ≠ some '[') := by
  by_cases pair : c = '[' ∧ rest.head? = some '['
  · obtain ⟨rfl, second⟩ := pair
    obtain ⟨tail, rfl⟩ : ∃ tail, rest = '[' :: tail := by
      cases rest with
      | nil => simp at second
      | cons d tail => exact ⟨tail, by simpa using second⟩
    simp [stopsProse]
  · rw [stopsProse]
    · constructor
      · exact fun opens => ⟨opens, fun bracket second => pair ⟨bracket, second⟩⟩
      · exact And.left
    · rintro tail rfl rfl
      exact pair ⟨rfl, rfl⟩

/-- Whether a text ends with a newline character. -/
def endsInNewline (s : List Char) : Bool := s.getLast?.any Delimiter.isNewline

/-- The end of a line before the given rest. A lone carriage return ends a line only where no line
feed follows it. -/
def EndsLine (newline rest : List Char) : Prop :=
  newline = ['\n'] ∨ newline = ['\r', '\n'] ∨ newline = ['\r'] ∧ rest.head? ≠ some '\n'

theorem EndsLine.ne_nil {newline rest : List Char} (ends : EndsLine newline rest) :
    newline ≠ [] := by
  rcases ends with rfl | rfl | ⟨rfl, -⟩ <;> simp

theorem EndsLine.head {newline rest : List Char} (ends : EndsLine newline rest) :
    ∀ c ∈ (newline ++ rest).head?, Delimiter.isNewline c = true := by
  rcases ends with rfl | rfl | ⟨rfl, -⟩ <;> simp [Delimiter.isNewline]

theorem absent_of_not_isNewline {s : List Char}
    (inside : ∀ c ∈ s, Delimiter.isNewline c = false) : '\r' ∉ s ∧ '\n' ∉ s := by
  constructor
  · exact fun member => absurd (inside _ member) (by decide)
  · exact fun member => absurd (inside _ member) (by decide)

theorem absent_of_not_endsSegment {s : List Char}
    (inside : ∀ c ∈ s, Delimiter.endsSegment c = false) : '|' ∉ s ∧ '\r' ∉ s ∧ '\n' ∉ s := by
  refine ⟨?_, ?_, ?_⟩
  · exact fun member => absurd (inside _ member) (by decide)
  · exact fun member => absurd (inside _ member) (by decide)
  · exact fun member => absurd (inside _ member) (by decide)

/-- What may be ahead in a context. -/
def Context.Fits : Context → List Char → Prop
  | .line, _ => True
  | .prose _, s => stopsProse s = true
  | .label, s => ∃ c, s.head? = some c ∧ Delimiter.isNewline c = false

/-- The blanks that are passed in a context. -/
def Context.Leads (options : Options) (lead : List Char) : Context → Prop
  | .line => (∀ c ∈ lead, Delimiter.isBlank c = true) ∧ (options.skipBlanks = false → lead = [])
  | _ => lead = []

theorem Context.Leads.eq_nil {options : Options} {context : Context} {lead : List Char}
    (leads : context.Leads options lead) (keep : options.skipBlanks = false) : lead = [] := by
  cases context with
  | line => exact leads.2 keep
  | prose inline => exact leads
  | label => exact leads

/-- A token with what is passed around it. -/
structure Piece where
  /-- The blanks before it. -/
  lead : List Char := []
  opening : List Char := []
  kind : Kind
  value : List Char
  inline : Bool := false
  closing : List Char := []
  deriving DecidableEq

namespace Piece

/-- What is passed before the value. -/
def gap (piece : Piece) : List Char := piece.lead ++ piece.opening

/-- All characters of the piece. -/
def chars (piece : Piece) : List Char := piece.gap ++ (piece.value ++ piece.closing)

/-- The token of the piece that starts at a position. -/
def token (piece : Piece) (p : Position) (file : Option String) : Token :=
  (p.after piece.gap).token file piece.kind piece.value piece.inline

/-- The place of the bracket that the piece leaves open, if it does. -/
def warning (piece : Piece) (p : Position) (file : Option String) : Option Span :=
  if piece.opening = ['['] ∧ piece.closing = [] then some ((p.after piece.lead).toSpan file)
  else none

end Piece

/-- How a segment of a label ends, and in which context this leaves what follows. -/
inductive SegmentEnd : List Char → Context → List Char → Prop where
  | next {rest : List Char} (fits : Context.label.Fits rest) : SegmentEnd ['|'] .label rest
  | last : SegmentEnd ['|'] .line []
  | bar {newline rest : List Char} (ends : EndsLine newline rest) :
      SegmentEnd ('|' :: newline) .line rest
  | line {newline rest : List Char} (ends : EndsLine newline rest) :
      SegmentEnd newline .line rest

theorem SegmentEnd.ne_nil {closing rest : List Char} {after : Context}
    (ends : SegmentEnd closing after rest) : closing ≠ [] := by
  cases ends with
  | line ends => exact ends.ne_nil
  | _ => simp

theorem SegmentEnd.head {closing rest : List Char} {after : Context}
    (ends : SegmentEnd closing after rest) :
    ∀ c ∈ (closing ++ rest).head?, Delimiter.endsSegment c = true := by
  cases ends with
  | line ends =>
    intro c first
    simp [Delimiter.endsSegment, ends.head c first]
  | _ => simp [Delimiter.endsSegment]

/-- The pieces that may stand in a context before a rest, and the context of that rest. -/
inductive Lexeme (options : Options) : Context → Piece → Context → List Char → Prop where
  | directive {context : Context} {lead value newline rest : List Char}
      (free : context ≠ .label) (leads : context.Leads options lead)
      (inside : ∀ c ∈ value, Delimiter.isNewline c = false) (ends : EndsLine newline rest) :
      Lexeme options context
        { lead, opening := ['@'], kind := .tag, value, closing := newline } .line rest
  | tag {context : Context} {lead value rest : List Char}
      (free : context ≠ .label) (leads : context.Leads options lead)
      (inside : ∀ c ∈ value, c ≠ ']') (single : value.head? ≠ some '[') :
      Lexeme options context
        { lead, opening := ['['], kind := .tag, value, inline := context.inline, closing := [']'] }
        .line rest
  | openTag {context : Context} {lead value : List Char} (lenient : options.strictTags = false)
      (free : context ≠ .label) (leads : context.Leads options lead)
      (inside : ∀ c ∈ value, c ≠ ']') (single : value.head? ≠ some '[') :
      Lexeme options context
        { lead, opening := ['['], kind := .tag, value, inline := context.inline } .line []
  | label {context after : Context} {lead value closing rest : List Char}
      (free : context ≠ .label) (leads : context.Leads options lead)
      (inside : ∀ c ∈ value, Delimiter.endsSegment c = false)
      (ends : SegmentEnd closing after rest) :
      Lexeme options context { lead, opening := ['*'], kind := .label, value, closing } after rest
  | segment {after : Context} {value closing rest : List Char}
      (inside : ∀ c ∈ value, Delimiter.endsSegment c = false)
      (ends : SegmentEnd closing after rest) :
      Lexeme options .label { kind := .label, value, closing } after rest
  | text {lead value rest : List Char} (leads : Context.line.Leads options lead)
      (content : value ≠ []) (prose : isProse value = true) (stops : stopsProse rest = true)
      (first : options.skipBlanks = true → ∀ c ∈ value.head?, Delimiter.isBlank c = false) :
      Lexeme options .line { lead, kind := .text, value } (.prose !(endsInNewline value)) rest

/-- A piece that the end of the input cuts off: what opens it, its value so far, the cause of the
fault, and how much of the opening stands before the place that the fault names. -/
inductive Unfinished (options : Options) :
    Context → List Char → List Char → List Char → Cause → List Char → Prop where
  | directive {context : Context} {lead value : List Char} (free : context ≠ .label)
      (leads : context.Leads options lead) (inside : ∀ c ∈ value, Delimiter.isNewline c = false) :
      Unfinished options context lead ['@'] value .openDirective []
  | nameless {context : Context} {lead : List Char} (free : context ≠ .label)
      (leads : context.Leads options lead) :
      Unfinished options context lead ['*'] [] .namelessLabel []
  | label {context : Context} {lead value : List Char} (free : context ≠ .label)
      (leads : context.Leads options lead) (content : value ≠ [])
      (inside : ∀ c ∈ value, Delimiter.endsSegment c = false) :
      Unfinished options context lead ['*'] value .openLabel ['*']
  | segment {value : List Char} (content : value ≠ [])
      (inside : ∀ c ∈ value, Delimiter.endsSegment c = false) :
      Unfinished options .label [] [] value .openLabel []
  | tag {context : Context} {lead value : List Char} (strict : options.strictTags = true)
      (free : context ≠ .label) (leads : context.Leads options lead)
      (inside : ∀ c ∈ value, c ≠ ']') (single : value.head? ≠ some '[') :
      Unfinished options context lead ['['] value .openTag []

/-- How a source ends. -/
inductive Ending where
  | complete
  /-- With a piece that cannot be finished, of which some characters belong to its value. -/
  | broken (fault : Fault) (pending : List Char)

/-- Why a source cannot be read to its end, if it cannot. -/
def Ending.fault? : Ending → Option Fault
  | .complete => none
  | .broken fault _ => some fault

/-- The characters that no token takes. -/
def Ending.pending : Ending → List Char
  | .complete => []
  | .broken _ pending => pending

/-- What a source reads as. -/
structure Reading where
  tokens : List Token := []
  /-- The places of brackets left open. -/
  warnings : List Span := []
  ending : Ending

/-- The reading with one more token before all others. -/
def Reading.cons (token : Token) (warning : Option Span) (reading : Reading) : Reading :=
  { reading with
    tokens := token :: reading.tokens
    warnings := warning.toList ++ reading.warnings }

/-- What the rest of a source reads as that starts at a position in a context. -/
inductive Reads (options : Options) (file : Option String) :
    Context → Position → List Char → Reading → Prop where
  | complete {context : Context} {p : Position} {lead : List Char} (free : context ≠ .label)
      (leads : context.Leads options lead) :
      Reads options file context p lead
        { tokens := [(p.after lead).token file .endOfInput [] false], ending := .complete }
  | broken {context : Context} {p : Position} {lead opening value before : List Char}
      {cause : Cause} (unfinished : Unfinished options context lead opening value cause before) :
      Reads options file context p (lead ++ (opening ++ value))
        { ending := .broken ⟨cause, (p.after (lead ++ before)).toSpan file⟩ value }
  | piece {context after : Context} {p : Position} {piece : Piece} {rest : List Char}
      {reading : Reading} (lexeme : Lexeme options context piece after rest)
      (reads : Reads options file after (p.after piece.chars) rest reading) :
      Reads options file context p (piece.chars ++ rest)
        (reading.cons (piece.token p file) (piece.warning p file))

/-! ## Every source reads as something

Each construct is cut off at the first character that can end it, so a source splits into the
first piece and a shorter rest, or ends here. -/

/-- A text runs through, or it is cut at the first character of a class. -/
theorem all_or_split (stop : Char → Bool) (s : List Char) :
    (∀ c ∈ s, stop c = false) ∨
      ∃ value c rest, s = value ++ c :: rest ∧ (∀ d ∈ value, stop d = false) ∧ stop c = true := by
  induction s with
  | nil => simp
  | cons c s ih =>
    by_cases stops : stop c = true
    · exact .inr ⟨[], c, s, rfl, by simp, stops⟩
    · have goes : stop c = false := by simpa using stops
      rcases ih with inside | ⟨value, d, rest, rfl, inside, ends⟩
      · left
        intro d member
        rcases List.mem_cons.1 member with rfl | member
        · exact goes
        · exact inside d member
      · refine .inr ⟨c :: value, d, rest, rfl, ?_, ends⟩
        intro e member
        rcases List.mem_cons.1 member with rfl | member
        · exact goes
        · exact inside e member

private theorem exists_endsLine {c : Char} (newline : Delimiter.isNewline c = true)
    (s : List Char) : ∃ line rest, c :: s = line ++ rest ∧ EndsLine line rest := by
  have either : c = '\r' ∨ c = '\n' := by simpa [Delimiter.isNewline] using newline
  rcases either with rfl | rfl
  · by_cases feed : s.head? = some '\n'
    · obtain ⟨rest, rfl⟩ : ∃ rest, s = '\n' :: rest := by
        cases s with
        | nil => simp at feed
        | cons d rest => exact ⟨rest, by simpa using feed⟩
      exact ⟨['\r', '\n'], rest, rfl, .inr (.inl rfl)⟩
    · exact ⟨['\r'], s, rfl, .inr (.inr ⟨rfl, feed⟩)⟩
  · exact ⟨['\n'], s, rfl, .inl rfl⟩

private theorem exists_segmentEnd {c : Char} (ends : Delimiter.endsSegment c = true)
    (s : List Char) : ∃ closing after rest, c :: s = closing ++ rest ∧
      SegmentEnd closing after rest ∧ after.Fits rest := by
  by_cases bar : c = '|'
  · subst bar
    cases s with
    | nil => exact ⟨['|'], .line, [], rfl, .last, trivial⟩
    | cons d s =>
      by_cases newline : Delimiter.isNewline d = true
      · obtain ⟨line, rest, split, ends⟩ := exists_endsLine newline s
        exact ⟨'|' :: line, .line, rest, by simp [split], .bar ends, trivial⟩
      · have fits : Context.label.Fits (d :: s) := ⟨d, rfl, by simpa using newline⟩
        exact ⟨['|'], .label, d :: s, rfl, .next fits, fits⟩
  · have newline : Delimiter.isNewline c = true := by
      simpa [Delimiter.endsSegment, bar] using ends
    obtain ⟨line, rest, split, ends⟩ := exists_endsLine newline s
    exact ⟨line, .line, rest, split, .line ends, trivial⟩

/-- The prose at the start of a text, and what stops it. -/
private theorem exists_prose (s : List Char) :
    ∃ value rest, s = value ++ rest ∧ isProse value = true ∧ stopsProse rest = true := by
  fun_induction isProse s with
  | case1 => exact ⟨[], [], rfl, rfl, rfl⟩
  | case2 rest ih =>
    obtain ⟨value, rest, rfl, prose, stops⟩ := ih
    exact ⟨'[' :: '[' :: value, rest, rfl, prose, stops⟩
  | case3 c rest single ih =>
    by_cases opens : Delimiter.opensMarkup c = true
    · refine ⟨[], c :: rest, rfl, rfl, ?_⟩
      rw [stopsProse]
      · exact opens
      · exact single
    · have goes : c ≠ '[' := by
        rintro rfl
        exact opens rfl
      obtain ⟨value, rest, rfl, prose, stops⟩ := ih
      refine ⟨c :: value, rest, rfl, ?_, stops⟩
      rw [isProse]
      · simpa [opens] using prose
      · exact fun tail same => absurd same goes

/-- A text begins with a piece, or ends here. -/
private inductive Begins (options : Options) (context : Context) : List Char → Prop where
  | complete {lead : List Char} (free : context ≠ .label) (leads : context.Leads options lead) :
      Begins options context lead
  | broken {lead opening value before : List Char} {cause : Cause}
      (unfinished : Unfinished options context lead opening value cause before) :
      Begins options context (lead ++ (opening ++ value))
  | piece {piece : Piece} {after : Context} {rest : List Char}
      (lexeme : Lexeme options context piece after rest) (fits : after.Fits rest) :
      Begins options context (piece.chars ++ rest)

private theorem begins_segment {options : Options} {s : List Char}
    (fits : Context.label.Fits s) : Begins options .label s := by
  rcases all_or_split Delimiter.endsSegment s with inside | ⟨value, c, tail, rfl, inside, stop⟩
  · have content : s ≠ [] := by
      obtain ⟨c, first, -⟩ := fits
      rintro rfl
      simp at first
    exact .broken (.segment content inside)
  · obtain ⟨closing, after, rest, split, ends, fits⟩ := exists_segmentEnd stop tail
    have lexeme : Lexeme options .label _ after rest := .segment inside ends
    simpa [Piece.chars, Piece.gap, split] using Begins.piece lexeme fits

section Free

variable {options : Options} {context : Context} {lead : List Char} (free : context ≠ .label)
  (leads : context.Leads options lead)
include free leads

private theorem begins_directive (s : List Char) : Begins options context (lead ++ '@' :: s) := by
  rcases all_or_split Delimiter.isNewline s with inside | ⟨value, c, tail, rfl, inside, stop⟩
  · exact .broken (.directive free leads inside)
  · obtain ⟨newline, rest, split, ends⟩ := exists_endsLine stop tail
    have lexeme : Lexeme options context _ .line rest := .directive free leads inside ends
    simpa [Piece.chars, Piece.gap, split] using Begins.piece lexeme trivial

private theorem begins_label (s : List Char) : Begins options context (lead ++ '*' :: s) := by
  rcases all_or_split Delimiter.endsSegment s with inside | ⟨value, c, tail, rfl, inside, stop⟩
  · by_cases content : s = []
    · subst content
      exact .broken (.nameless free leads)
    · exact .broken (.label free leads content inside)
  · obtain ⟨closing, after, rest, split, ends, fits⟩ := exists_segmentEnd stop tail
    have lexeme : Lexeme options context _ after rest := .label free leads inside ends
    simpa [Piece.chars, Piece.gap, split] using Begins.piece lexeme fits

private theorem begins_tag {s : List Char} (single : s.head? ≠ some '[') :
    Begins options context (lead ++ '[' :: s) := by
  rcases all_or_split (· == ']') s with inside | ⟨value, c, rest, rfl, inside, stop⟩
  · have inside : ∀ c ∈ s, c ≠ ']' := by simpa using inside
    by_cases strict : options.strictTags = true
    · exact .broken (.tag strict free leads inside single)
    · have lexeme : Lexeme options context _ .line [] :=
        .openTag (by simpa using strict) free leads inside single
      simpa [Piece.chars, Piece.gap] using Begins.piece lexeme trivial
  · obtain rfl : c = ']' := by simpa using stop
    have inside : ∀ c ∈ value, c ≠ ']' := by simpa using inside
    have single : value.head? ≠ some '[' := by
      cases value with
      | nil => simp
      | cons d value => simpa using single
    have lexeme : Lexeme options context _ .line rest := .tag free leads inside single
    simpa [Piece.chars, Piece.gap] using Begins.piece lexeme trivial

end Free

private theorem begins_text {options : Options} {lead : List Char} {c : Char} {s : List Char}
    (leads : Context.line.Leads options lead)
    (first : options.skipBlanks = true → Delimiter.isBlank c = false)
    (prose : stopsProse (c :: s) = false) : Begins options .line (lead ++ c :: s) := by
  obtain ⟨value, rest, split, valid, stops⟩ := exists_prose (c :: s)
  cases value with
  | nil =>
    obtain rfl : c :: s = rest := split
    rw [prose] at stops
    contradiction
  | cons d value =>
    obtain ⟨rfl, rfl⟩ := List.cons.inj split
    have lexeme : Lexeme options .line _ _ rest :=
      .text leads (List.cons_ne_nil c value) valid stops (by simpa using first)
    simpa [Piece.chars, Piece.gap] using Begins.piece lexeme stops

/-- Blanks are split off where they are passed. What remains still fits the context. -/
private theorem exists_lead (options : Options) {context : Context} {s : List Char}
    (free : context ≠ .label) (fits : context.Fits s) :
    context.Leads options s ∨ ∃ lead c rest, s = lead ++ c :: rest ∧
      context.Leads options lead ∧ context.Fits (c :: rest) ∧
      (options.skipBlanks = true → Delimiter.isBlank c = false) := by
  cases context with
  | label => contradiction
  | prose inline =>
    cases s with
    | nil => exact .inl rfl
    | cons c rest =>
      refine .inr ⟨[], c, rest, rfl, rfl, fits, fun _ => ?_⟩
      have opens : Delimiter.opensMarkup c = true := by
        simp only [Context.Fits, stopsProse_cons] at fits
        exact fits.1
      rcases (by simpa [Delimiter.opensMarkup, or_assoc] using opens : c = '@' ∨ c = '*' ∨ c = '[')
        with rfl | rfl | rfl <;> rfl
  | line =>
    by_cases skip : options.skipBlanks = true
    · rcases all_or_split (!Delimiter.isBlank ·) s with blank | ⟨lead, c, rest, rfl, blank, stop⟩
      · exact .inl ⟨by simpa using blank, by simp [skip]⟩
      · have leads : Context.line.Leads options lead := ⟨by simpa using blank, by simp [skip]⟩
        exact .inr ⟨lead, c, rest, rfl, leads, trivial, fun _ => by simpa using stop⟩
    · cases s with
      | nil => exact .inl ⟨by simp, by simp⟩
      | cons c rest => exact .inr ⟨[], c, rest, rfl, ⟨by simp, by simp⟩, trivial, by simp [skip]⟩

private theorem begins_of_fits (options : Options) {context : Context} {s : List Char}
    (fits : context.Fits s) : Begins options context s := by
  by_cases segment : context = .label
  · subst segment
    exact begins_segment fits
  · rcases exists_lead options segment fits with leads | ⟨lead, c, rest, rfl, leads, fits, first⟩
    · exact .complete segment leads
    · by_cases directive : c = '@'
      · subst directive
        exact begins_directive segment leads rest
      by_cases label : c = '*'
      · subst label
        exact begins_label segment leads rest
      by_cases tag : c = '[' ∧ rest.head? ≠ some '['
      · obtain ⟨rfl, single⟩ := tag
        exact begins_tag segment leads single
      -- What is left can only be prose, which does not fit after prose.
      · have prose : stopsProse (c :: rest) = false := by
          rw [Bool.eq_false_iff, Ne, stopsProse_cons]
          rintro ⟨opens, single⟩
          have bracket : c = '[' := by simpa [Delimiter.opensMarkup, directive, label] using opens
          exact tag ⟨bracket, single bracket⟩
        cases context with
        | line => exact begins_text leads first prose
        | prose inline => simp [Context.Fits, prose] at fits
        | label => contradiction

/-- Every piece takes characters. -/
theorem Lexeme.chars_ne_nil {options : Options} {context after : Context} {piece : Piece}
    {rest : List Char} (lexeme : Lexeme options context piece after rest) : piece.chars ≠ [] := by
  cases lexeme with
  | text leads content prose stops first => simp [Piece.chars, content]
  | segment inside ends => simp [Piece.chars, ends.ne_nil]
  | _ => simp [Piece.chars, Piece.gap]

theorem Lexeme.leads {options : Options} {context after : Context} {piece : Piece}
    {rest : List Char} (lexeme : Lexeme options context piece after rest) :
    context.Leads options piece.lead := by
  cases lexeme with
  | segment inside ends => rfl
  | _ => assumption

theorem Unfinished.leads {options : Options} {context : Context}
    {lead opening value before : List Char} {cause : Cause}
    (unfinished : Unfinished options context lead opening value cause before) :
    context.Leads options lead := by
  cases unfinished with
  | segment content inside => rfl
  | _ => assumption

theorem Lexeme.kind_ne_endOfInput {options : Options} {context after : Context} {piece : Piece}
    {rest : List Char} (lexeme : Lexeme options context piece after rest) :
    piece.kind ≠ .endOfInput := by
  cases lexeme <;> simp

theorem Unfinished.chars_ne_nil {options : Options} {context : Context}
    {lead opening value before : List Char} {cause : Cause}
    (unfinished : Unfinished options context lead opening value cause before) :
    opening ++ value ≠ [] := by
  cases unfinished with
  | segment content inside => simpa using content
  | _ => simp

/-- An empty text reads as the end of the input. -/
theorem Reads.eq_of_nil {options : Options} {file : Option String} {context : Context}
    {p : Position} {s : List Char} {reading : Reading}
    (reads : Reads options file context p s reading) (none : s = []) :
    reading = { tokens := [p.token file .endOfInput [] false], ending := .complete } := by
  cases reads with
  | complete free leads =>
    subst none
    rfl
  | broken unfinished =>
    exact absurd (List.append_eq_nil_iff.1 none).2 unfinished.chars_ne_nil
  | piece lexeme reads => exact absurd (List.append_eq_nil_iff.1 none).1 lexeme.chars_ne_nil

/-- Whatever fits a context reads as something there. The induction is on the length, since each
piece takes characters. -/
theorem exists_reads (options : Options) (file : Option String) (context : Context)
    (p : Position) (s : List Char) (fits : context.Fits s) :
    ∃ reading, Reads options file context p s reading := by
  induction length : s.length using Nat.strongRecOn generalizing context p s with
  | _ n ih =>
    cases begins_of_fits options fits with
    | complete free leads => exact ⟨_, .complete free leads⟩
    | broken unfinished => exact ⟨_, .broken unfinished⟩
    | @piece piece after rest lexeme remains =>
      have positive := List.length_pos_iff.2 lexeme.chars_ne_nil
      obtain ⟨reading, reads⟩ :=
        ih rest.length (by simp at length; omega) after (p.after piece.chars) rest remains rfl
      exact ⟨_, .piece lexeme reads⟩

end Scenario.Grammar
