import Scenario.Proofs.Grammar
import Scenario.Scan.Pass

/-! # Passes follow the grammar

A pass takes one turn after another: it finishes the rule at hand, and where that gives no token it
reads the next line (`turn`). Here each turn is tied to one step of the grammar, and a whole pass to
what the source reads as (`follows_contextTurn`). Since every source reads as something, this says
all there is to say about a pass (`exists_follows_pass`).
-/

namespace Scenario.Scan

open Grammar

/-- What a pass does next that has a rule to finish. -/
def turn (resume : Resume) (c : Cursor) : Move :=
  match resume.step c with
  | .done next => if next.finished then .done next else line next
  | move => move

/-- The pass that begins with a move. -/
def Move.pass : Move → Pass
  | .emit kind inline warning resume next =>
      (passFrom resume (next.finalize kind)).cons (next.token kind inline) warning
  | .fail fault next => { fault := some fault, cursor := next }
  | .done next => { cursor := next }

/-- A pass is a turn, and the pass from where the turn ends. -/
theorem passFrom_eq_pass_turn (resume : Resume) (c : Cursor) :
    passFrom resume c = (turn resume c).pass := by
  rw [passFrom, turn]
  split
  · next step => rw [step, Move.pass]
  · next step => rw [step, Move.pass]
  · next next step =>
    rw [step]
    by_cases finished : next.finished = true
    · simp [finished, Move.pass]
    · simp only [finished, Bool.false_eq_true, dif_neg, if_neg, not_false_eq_true]
      split <;> simp_all [Move.pass]

/-! ## Ends of pieces -/

theorem skipNewline_eq {c : Cursor} {newline rest : List Char} (ends : EndsLine newline rest)
    (ahead : c.ahead = newline ++ rest) : c.skipNewline = c.skip newline.length := by
  rw [Cursor.skipNewline]
  rcases ends with rfl | rfl | ⟨rfl, other⟩
  · have carriage : c.skipChar '\r' = c := Cursor.skipChar_eq_self (by simp [ahead])
    rw [carriage, Cursor.skipChar_eq_skip ahead]
    rfl
  · have feed : (c.skip 1).ahead = '\n' :: rest := by simp [ahead]
    rw [Cursor.skipChar_eq_skip ahead, Cursor.skipChar_eq_skip feed, Cursor.skip_skip]
    rfl
  · have plain : (c.skip 1).ahead.head? ≠ some '\n' := by simpa [ahead] using other
    rw [Cursor.skipChar_eq_skip ahead, Cursor.skipChar_eq_self plain]
    rfl

/-- How what is left of a rule passes the end of a piece, and in which context this leaves the
rest. -/
inductive Settles : Resume → List Char → Context → List Char → Prop where
  | finish {rest : List Char} : Settles .finish [] .line rest
  | endLine {newline rest : List Char} (ends : EndsLine newline rest) :
      Settles .endLine newline .line rest
  | nextSegment {closing rest : List Char} {context : Context}
      (ends : SegmentEnd closing context rest) : Settles .nextSegment closing context rest
  | closeTag {rest : List Char} : Settles .closeTag [']'] .line rest
  | openTag : Settles .closeTag [] .line []
  | afterText {inline : Bool} {rest : List Char} :
      Settles (.afterText inline) [] (.prose inline) rest

/-- The turn that a context calls for, once the end of the last piece is passed. -/
def contextTurn : Context → Cursor → Move
  | .line, c => line c
  | .prose inline, c => if c.ahead.head? = some '[' then tag inline c else line c
  | .label, c => segment c

private theorem turn_of_done {resume : Resume} {c : Cursor} {n : Nat} (opened : c.finished = false)
    (step : resume.step c = .done (c.skip n)) : turn resume c = line (c.skip n) := by
  have same : (c.skip n).finished = false := opened
  simp [turn, step, same]

private theorem turn_of_ne_done {resume : Resume} {c : Cursor} {move : Move}
    (step : resume.step c = move) (going : ∀ next, move ≠ .done next) : turn resume c = move := by
  cases move with
  | done next => exact absurd rfl (going next)
  | emit kind inline warning resume next => simp [turn, step]
  | fail fault next => simp [turn, step]

private theorem turn_nextSegment {c : Cursor} {closing rest : List Char} {context : Context}
    (ends : SegmentEnd closing context rest) (ahead : c.ahead = closing ++ rest)
    (opened : c.finished = false) :
    turn .nextSegment c = contextTurn context (c.skip closing.length) := by
  cases ends with
  | next fits =>
    obtain ⟨char, first, other⟩ := fits
    have content : rest ≠ [] := by
      rintro rfl
      simp at first
    apply turn_of_ne_done
    · simp [Resume.step, ahead, content, first, other, contextTurn]
    · exact segment_ne_done _
  | last =>
    apply turn_of_done opened
    simp [Resume.step, ahead]
  | @bar newline rest ends =>
    have skipped : (c.skip 1).skipNewline = c.skip (newline.length + 1) := by
      rw [skipNewline_eq ends (by simp [ahead]), Cursor.skip_skip, Nat.add_comm]
    apply turn_of_done opened
    rcases ends with rfl | rfl | ⟨rfl, -⟩ <;>
      simpa [Resume.step, ahead, Delimiter.isNewline] using skipped
  | line ends =>
    have skipped := skipNewline_eq ends ahead
    apply turn_of_done opened
    rcases ends with rfl | rfl | ⟨rfl, -⟩ <;> simpa [Resume.step, ahead] using skipped

/-- A turn passes the end of the last piece and then goes on as the context says. -/
theorem turn_of_settles {resume : Resume} {c : Cursor} {closing rest : List Char}
    {context : Context} (settles : Settles resume closing context rest)
    (ahead : c.ahead = closing ++ rest) (opened : c.finished = false) :
    turn resume c = contextTurn context (c.skip closing.length) := by
  cases settles with
  | finish => exact turn_of_done opened rfl
  | endLine ends => exact turn_of_done opened (congrArg Move.done (skipNewline_eq ends ahead))
  | nextSegment ends => exact turn_nextSegment ends ahead opened
  | closeTag => exact turn_of_done opened (congrArg Move.done (Cursor.skipChar_eq_skip ahead))
  | openTag =>
    have other : c.ahead.head? ≠ some ']' := by simp [ahead]
    exact turn_of_done opened (congrArg Move.done (Cursor.skipChar_eq_self other))
  | @afterText inline =>
    rw [contextTurn, List.length_nil, Cursor.skip_zero]
    cases rest with
    | nil =>
      have none : c.ahead = [] := ahead
      rw [if_neg (by simp [none])]
      have step : (Resume.afterText inline).step c = .done (c.skip 0) := by
        simp [Resume.step, none]
      exact turn_of_done opened step
    | cons char rest =>
      have first : c.ahead = char :: rest := ahead
      by_cases bracket : char = '['
      · subst bracket
        rw [if_pos (by simp [first])]
        exact turn_of_ne_done (by simp [Resume.step, first]) (tag_ne_done _ _)
      · rw [if_neg (by simp [first, bracket])]
        apply turn_of_ne_done _ (line_ne_done _)
        simp [Resume.step, first, bracket]

/-! ## Pieces -/

theorem line_eq_route {c : Cursor} {context : Context} {lead rest : List Char}
    (free : context ≠ .label) (leads : context.Leads c.options lead)
    (ahead : c.ahead = lead ++ rest)
    (first : c.options.skipBlanks = true → ∀ char ∈ rest.head?, Delimiter.isBlank char = false) :
    line c = route (c.skip lead.length) := by
  rw [line]
  split
  · next skip =>
    have blank : ∀ char ∈ lead, Delimiter.isBlank char = true := by
      cases context with
      | line => exact leads.1
      | prose inline => simp [show lead = [] from leads]
      | label => contradiction
    rw [Cursor.skipBlanks_eq ahead blank (first skip)]
  · next keep =>
    have none : lead = [] := by
      cases context with
      | line => exact leads.2 (by simpa using keep)
      | prose inline => exact leads
      | label => contradiction
    rw [none]
    rfl

/-- The route that every context but a label takes, unless prose is followed by a bracket. -/
private theorem contextTurn_eq_route {c : Cursor} {context : Context} {lead rest : List Char}
    (free : context ≠ .label) (leads : context.Leads c.options lead)
    (ahead : c.ahead = lead ++ rest)
    (first : c.options.skipBlanks = true → ∀ char ∈ rest.head?, Delimiter.isBlank char = false)
    (other : context = .line ∨ rest.head? ≠ some '[') :
    contextTurn context c = route (c.skip lead.length) := by
  rw [← line_eq_route free leads ahead first]
  cases context with
  | line => rfl
  | label => contradiction
  | prose inline =>
    have none : lead = [] := leads
    have other : c.ahead.head? ≠ some '[' := by
      simpa [ahead, none] using other
    rw [contextTurn, if_neg other]

private theorem contextTurn_eq_tag {c : Cursor} {context : Context} {lead rest : List Char}
    (free : context ≠ .label) (leads : context.Leads c.options lead)
    (ahead : c.ahead = lead ++ '[' :: rest) (single : rest.head? ≠ some '[') :
    contextTurn context c = tag context.inline (c.skip lead.length) := by
  cases context with
  | label => contradiction
  | line =>
    rw [contextTurn_eq_route free leads ahead (by simp [Delimiter.isBlank, Delimiter.isNewline])
      (.inl rfl)]
    rw [route.eq_def]
    cases rest with
    | nil => simp [ahead, Context.inline]
    | cons char rest =>
      have other : char ≠ '[' := by simpa using single
      simp [ahead, Context.inline, other]
  | prose inline =>
    have none : lead = [] := leads
    rw [contextTurn, if_pos (by simp [ahead, none]), none]
    rfl

theorem place_skip {c : Cursor} {gap rest : List Char} (ahead : c.ahead = gap ++ rest) :
    (c.skip gap.length).place = (c.position.after gap).toSpan c.file := by
  rw [Cursor.place, Cursor.position_skip, ahead, List.take_left]
  rfl

section Rules

variable {c : Cursor} {context : Context} {lead value rest : List Char}

/-- A rule that passes its first character after the blanks, and records up to a stop. -/
private theorem skip_recordUntil {char : Char} {stop : Char → Bool}
    (ahead : c.ahead = lead ++ char :: (value ++ rest))
    (inside : ∀ d ∈ value, stop d = false) (boundary : ∀ d ∈ rest.head?, stop d = true) :
    ((c.skip lead.length).skip 1).recordUntil stop = c.read (lead ++ [char]) value := by
  have left : ((c.skip lead.length).skip 1).ahead = value ++ rest := by simp [ahead]
  rw [Cursor.recordUntil_eq left inside boundary, Cursor.skip_skip, Cursor.read]
  simp

/-- The first character that a piece opens with is not blank, so the blanks end before it. -/
private theorem not_blank_of_opens {char : Char} {s : List Char}
    (opens : Delimiter.opensMarkup char = true) :
    ∀ d ∈ (char :: s).head?, Delimiter.isBlank d = false := by
  rcases (by simpa [Delimiter.opensMarkup, or_assoc] using opens :
    char = '@' ∨ char = '*' ∨ char = '[') with rfl | rfl | rfl <;>
  simp [Delimiter.isBlank, Delimiter.isNewline]

variable (free : context ≠ .label) (leads : context.Leads c.options lead)
include free leads

theorem turn_directive (inside : ∀ char ∈ value, Delimiter.isNewline char = false)
    (boundary : ∀ char ∈ rest.head?, Delimiter.isNewline char = true)
    (ahead : c.ahead = lead ++ '@' :: (value ++ rest)) :
    contextTurn context c =
      if rest = [] then
        .fail ⟨.openDirective, (c.position.after lead).toSpan c.file⟩ (c.read (lead ++ ['@']) value)
      else .emit .tag false none .endLine (c.read (lead ++ ['@']) value) := by
  have skipped := skip_recordUntil ahead inside boundary
  have left : (c.read (lead ++ ['@']) value).ahead = rest := Cursor.ahead_read (by simp [ahead])
  rw [contextTurn_eq_route free leads ahead (fun _ => not_blank_of_opens rfl) (.inr (by simp)),
    route.eq_def]
  simp [ahead, directive, skipped, Cursor.atEnd, left, place_skip ahead]

theorem turn_label (inside : ∀ char ∈ value, Delimiter.endsSegment char = false)
    (boundary : ∀ char ∈ rest.head?, Delimiter.endsSegment char = true)
    (ahead : c.ahead = lead ++ '*' :: (value ++ rest)) :
    contextTurn context c =
      if value = [] ∧ rest = [] then
        .fail ⟨.namelessLabel, (c.position.after lead).toSpan c.file⟩ (c.read (lead ++ ['*']) value)
      else if rest = [] then
        .fail ⟨.openLabel, (c.position.after (lead ++ ['*'])).toSpan c.file⟩
          (c.read (lead ++ ['*']) value)
      else .emit .label false none .nextSegment (c.read (lead ++ ['*']) value) := by
  have skipped := skip_recordUntil ahead inside boundary
  have left : (c.read (lead ++ ['*']) value).ahead = rest := Cursor.ahead_read (by simp [ahead])
  have place : ((c.skip lead.length).skip 1).place =
      (c.position.after (lead ++ ['*'])).toSpan c.file := by
    have ahead : c.ahead = (lead ++ ['*']) ++ (value ++ rest) := by simp [ahead]
    rw [← place_skip ahead, Cursor.skip_skip]
    simp
  rw [contextTurn_eq_route free leads ahead (fun _ => not_blank_of_opens rfl) (.inr (by simp)),
    route.eq_def]
  by_cases nameless : value = [] ∧ rest = []
  · obtain ⟨rfl, rfl⟩ := nameless
    simp [ahead, label, Cursor.atEnd, place_skip ahead, Cursor.read, Cursor.skip_skip,
      Cursor.record]
  · simp [ahead, label, segment, skipped, Cursor.atEnd, left, nameless, place]

theorem turn_tag (inside : ∀ char ∈ value, char ≠ ']') (single : value.head? ≠ some '[')
    (boundary : ∀ char ∈ rest.head?, char = ']')
    (ahead : c.ahead = lead ++ '[' :: (value ++ rest)) :
    contextTurn context c =
      if rest = [] then
        if c.options.strictTags then
          .fail ⟨.openTag, (c.position.after lead).toSpan c.file⟩ (c.read (lead ++ ['[']) value)
        else
          .emit .tag context.inline (some ((c.position.after lead).toSpan c.file)) .closeTag
            (c.read (lead ++ ['[']) value)
      else .emit .tag context.inline none .closeTag (c.read (lead ++ ['[']) value) := by
  have skipped : ((c.skip lead.length).skip 1).recordUntil (· == ']') =
      c.read (lead ++ ['[']) value :=
    skip_recordUntil ahead (by simpa using inside) (by simpa using boundary)
  have left : (c.read (lead ++ ['[']) value).ahead = rest := Cursor.ahead_read (by simp [ahead])
  have second : (value ++ rest).head? ≠ some '[' := by
    cases value with
    | nil =>
      intro first
      exact absurd (boundary '[' first) (by decide)
    | cons char value => simpa using single
  rw [contextTurn_eq_tag free leads ahead second]
  by_cases none : rest = []
  · simp [tag, skipped, Cursor.atEnd, left, none, place_skip ahead]
  · simp [tag, skipped, Cursor.atEnd, left, none]

end Rules

theorem turn_segment {c : Cursor} {value rest : List Char}
    (inside : ∀ char ∈ value, Delimiter.endsSegment char = false)
    (boundary : ∀ char ∈ rest.head?, Delimiter.endsSegment char = true)
    (ahead : c.ahead = value ++ rest) :
    contextTurn .label c =
      if rest = [] then .fail ⟨.openLabel, c.place⟩ (c.read [] value)
      else .emit .label false none .nextSegment (c.read [] value) := by
  have skipped : c.recordUntil Delimiter.endsSegment = c.read [] value :=
    Cursor.recordUntil_eq ahead inside boundary
  have left : (c.read [] value).ahead = rest := Cursor.ahead_read (by simp [ahead])
  simp [contextTurn, segment, skipped, Cursor.atEnd, left]

theorem proseLength_append {value rest : List Char} (prose : isProse value = true)
    (stops : stopsProse rest = true) : proseLength (value ++ rest) = value.length := by
  fun_induction isProse value with
  | case1 =>
    cases rest with
    | nil => rfl
    | cons c rest =>
      obtain ⟨opens, single⟩ := stopsProse_cons.1 stops
      rw [List.nil_append, proseLength]
      · simp [opens]
      · rintro tail rfl rfl
        exact single rfl rfl
  | case2 value ih => simpa [proseLength] using ih prose
  | case3 c value single ih =>
    obtain ⟨plain, prose⟩ : Delimiter.opensMarkup c = false ∧ isProse value = true := by
      simpa using prose
    rw [List.cons_append, proseLength]
    · simpa [plain] using ih prose
    · rintro tail rfl -
      exact absurd plain (by decide)

/-- Prose starts with a pair of brackets or with a character that opens nothing. -/
private theorem exists_head_of_isProse {value : List Char} (content : value ≠ [])
    (prose : isProse value = true) :
    (∃ tail, value = '[' :: '[' :: tail) ∨
      ∃ char tail, value = char :: tail ∧ Delimiter.opensMarkup char = false := by
  fun_cases isProse value with
  | case1 => contradiction
  | case2 tail => exact .inl ⟨tail, rfl⟩
  | case3 char tail single =>
    obtain ⟨plain, -⟩ : Delimiter.opensMarkup char = false ∧ isProse tail = true := by
      simpa [isProse.eq_3 _ _ single] using prose
    exact .inr ⟨char, tail, rfl, plain⟩

private theorem route_eq_text {c : Cursor} {value rest : List Char} (content : value ≠ [])
    (prose : isProse value = true) (ahead : c.ahead = value ++ rest) : route c = text c := by
  rw [route.eq_def]
  rcases exists_head_of_isProse content prose with ⟨tail, rfl⟩ | ⟨char, tail, rfl, plain⟩
  · simp [ahead]
  · obtain ⟨⟨directive, label⟩, tag⟩ : (char ≠ '@' ∧ char ≠ '*') ∧ char ≠ '[' := by
      simpa [Delimiter.opensMarkup] using plain
    simp [ahead, directive, label, tag]

theorem turn_text {c : Cursor} {lead value rest : List Char} (clean : c.pending = [])
    (leads : Context.line.Leads c.options lead) (content : value ≠ [])
    (prose : isProse value = true) (stops : stopsProse rest = true)
    (first : c.options.skipBlanks = true → ∀ char ∈ value.head?, Delimiter.isBlank char = false)
    (ahead : c.ahead = lead ++ (value ++ rest)) :
    contextTurn .line c =
      .emit .text false none (.afterText !(endsInNewline value)) (c.read lead value) := by
  have start : (c.skip lead.length).ahead = value ++ rest := by simp [ahead]
  have head : (value ++ rest).head? = value.head? := by
    cases value with
    | nil => contradiction
    | cons char value => rfl
  rw [contextTurn_eq_route (by simp) leads ahead (by simpa [head] using first) (.inl rfl),
    route_eq_text content prose start, text, start, proseLength_append prose stops,
    ← Cursor.read, Cursor.pending_read ahead clean]
  rfl

theorem turn_complete {c : Cursor} {context : Context} {lead : List Char}
    (free : context ≠ .label) (leads : context.Leads c.options lead) (ahead : c.ahead = lead) :
    contextTurn context c = .emit .endOfInput false none .finish (c.read lead []) := by
  have ahead : c.ahead = lead ++ [] := by simp [ahead]
  rw [contextTurn_eq_route free leads ahead (by simp) (.inr (by simp)),
    route_of_nil (by simp [ahead])]
  rfl

/-- Where a piece is ahead, the turn of its context emits it and leaves its end to be passed. -/
theorem turn_of_lexeme {c : Cursor} {context after : Context} {piece : Piece} {rest : List Char}
    (clean : c.pending = []) (lexeme : Lexeme c.options context piece after rest)
    (ahead : c.ahead = piece.chars ++ rest) :
    ∃ resume,
      contextTurn context c =
        .emit piece.kind piece.inline (piece.warning c.position c.file) resume
          (c.read piece.gap piece.value) ∧
      Settles resume piece.closing after rest := by
  cases lexeme with
  | @directive context lead value newline rest free leads inside ends =>
    have ahead : c.ahead = lead ++ '@' :: (value ++ (newline ++ rest)) := by
      simp [ahead, Piece.chars, Piece.gap]
    refine ⟨.endLine, ?_, .endLine ends⟩
    rw [turn_directive free leads inside ends.head ahead]
    simp [ends.ne_nil, Piece.warning, Piece.gap]
  | @tag context lead value rest free leads inside single =>
    have ahead : c.ahead = lead ++ '[' :: (value ++ ']' :: rest) := by
      simp [ahead, Piece.chars, Piece.gap]
    refine ⟨.closeTag, ?_, .closeTag⟩
    rw [turn_tag free leads inside single (by simp) ahead]
    simp [Piece.warning, Piece.gap]
  | @openTag context lead value lenient free leads inside single =>
    have ahead : c.ahead = lead ++ '[' :: (value ++ []) := by
      simp [ahead, Piece.chars, Piece.gap]
    refine ⟨.closeTag, ?_, .openTag⟩
    rw [turn_tag free leads inside single (by simp) ahead]
    simp [Piece.warning, Piece.gap, lenient]
  | @label context after lead value closing rest free leads inside ends =>
    have ahead : c.ahead = lead ++ '*' :: (value ++ (closing ++ rest)) := by
      simp [ahead, Piece.chars, Piece.gap]
    refine ⟨.nextSegment, ?_, .nextSegment ends⟩
    rw [turn_label free leads inside ends.head ahead]
    simp [ends.ne_nil, Piece.warning, Piece.gap]
  | @segment after value closing rest inside ends =>
    have ahead : c.ahead = value ++ (closing ++ rest) := by
      simp [ahead, Piece.chars, Piece.gap]
    refine ⟨.nextSegment, ?_, .nextSegment ends⟩
    rw [turn_segment inside ends.head ahead]
    simp [ends.ne_nil, Piece.warning, Piece.gap]
  | @text lead value rest leads content prose stops first =>
    have ahead : c.ahead = lead ++ (value ++ rest) := by
      simp [ahead, Piece.chars, Piece.gap]
    refine ⟨.afterText !(endsInNewline value), ?_, .afterText⟩
    rw [turn_text clean leads content prose stops first ahead]
    simp [Piece.warning, Piece.gap]

/-- Where a piece is ahead that cannot be finished, the turn of its context fails. -/
theorem turn_of_unfinished {c : Cursor} {context : Context}
    {lead opening value before : List Char} {cause : Cause}
    (unfinished : Unfinished c.options context lead opening value cause before)
    (ahead : c.ahead = lead ++ (opening ++ value)) :
    contextTurn context c =
      .fail ⟨cause, (c.position.after (lead ++ before)).toSpan c.file⟩
        (c.read (lead ++ opening) value) := by
  cases unfinished with
  | directive free leads inside =>
    have ahead : c.ahead = lead ++ '@' :: (value ++ []) := by simp [ahead]
    rw [turn_directive free leads inside (by simp) ahead]
    simp
  | nameless free leads =>
    have ahead : c.ahead = lead ++ '*' :: ([] ++ []) := by simp [ahead]
    rw [turn_label free leads (by simp) (by simp) ahead]
    simp
  | label free leads content inside =>
    have ahead : c.ahead = lead ++ '*' :: (value ++ []) := by simp [ahead]
    rw [turn_label free leads inside (by simp) ahead]
    simp [content]
  | segment content inside =>
    have ahead : c.ahead = value ++ [] := by simp [ahead]
    rw [turn_segment inside (by simp) ahead]
    simp [Cursor.place]
  | tag strict free leads inside single =>
    have ahead : c.ahead = lead ++ '[' :: (value ++ []) := by simp [ahead]
    rw [turn_tag free leads inside single (by simp) ahead]
    simp [strict]

/-! ## Whole passes -/

/-- A pass that starts at a cursor gives what its source reads as, and ends behind the source with
what no token took still recorded. -/
structure Follows (reading : Reading) (c : Cursor) (pass : Pass) : Prop where
  tokens : pass.tokens = reading.tokens
  warnings : pass.warnings = reading.warnings
  fault : pass.fault = reading.ending.fault?
  ahead : pass.cursor.ahead = []
  behind : pass.cursor.behind = c.ahead.reverse ++ c.behind
  position : pass.cursor.position = c.position.after c.ahead
  pending : pass.cursor.pending = reading.ending.pending
  latest : pass.cursor.latest = (reading.tokens.getLast?.map (·.kind)).or c.latest
  count : pass.cursor.count = c.count + reading.tokens.length
  file : pass.cursor.file = c.file
  options : pass.cursor.options = c.options

/-- What is passed before a pass does not matter to where it ends. -/
private theorem Follows.of_skip {reading : Reading} {c : Cursor} {n : Nat} {pass : Pass}
    (follows : Follows reading (c.skip n) pass) : Follows reading c pass where
  tokens := follows.tokens
  warnings := follows.warnings
  fault := follows.fault
  ahead := follows.ahead
  behind := by
    rw [follows.behind, Cursor.skip, ← List.append_assoc, ← List.reverse_append,
      List.take_append_drop]
  position := by
    rw [follows.position, Cursor.position_skip, Cursor.ahead_skip, ← Position.after_append,
      List.take_append_drop]
  pending := follows.pending
  latest := follows.latest
  count := follows.count
  file := follows.file
  options := follows.options

/-- A pass that emits a token and goes on from there. -/
private theorem Follows.cons {reading : Reading} {c : Cursor} {gap value rest : List Char}
    {kind : Kind} {pass : Pass} (clean : c.pending = [])
    (ahead : c.ahead = gap ++ (value ++ rest))
    (follows : Follows reading ((c.read gap value).finalize kind) pass) (inline : Bool)
    (warning : Option Span) :
    Follows (reading.cons ((c.position.after gap).token c.file kind value inline) warning) c
      (pass.cons ((c.read gap value).token kind inline) warning) where
  tokens := by
    rw [Cursor.token_read ahead clean, Pass.cons, Reading.cons, follows.tokens]
  warnings := by
    rw [Pass.cons, Reading.cons, follows.warnings]
  fault := follows.fault
  ahead := follows.ahead
  behind := by
    have behind := follows.behind
    rw [Cursor.ahead_finalize, Cursor.ahead_read ahead] at behind
    rw [Pass.cons, behind, Cursor.finalize, Cursor.behind_read ahead, ahead]
    simp
  position := by
    have position := follows.position
    rw [Cursor.ahead_finalize, Cursor.ahead_read ahead] at position
    rw [Pass.cons, position, Cursor.finalize, Cursor.position_read ahead, ahead,
      ← Position.after_append, List.append_assoc]
  pending := follows.pending
  latest := by
    rw [Pass.cons, follows.latest, Reading.cons, List.getLast?_cons]
    cases reading.tokens.getLast? <;> rfl
  count := by
    have count : (c.read gap value).count = c.count := Cursor.count_read c gap value
    simp only [Pass.cons, follows.count, Reading.cons, Cursor.finalize, count, List.length_cons]
    omega
  file := follows.file.trans (c.file_read gap value)
  options := follows.options.trans (c.options_read gap value)

/-- Nothing is read once the end of the input has been. -/
theorem passFrom_of_finished {c : Cursor} (finished : c.finished = true) :
    passFrom .finish c = { cursor := c } := by
  rw [passFrom_eq_pass_turn, turn]
  simp [Resume.step, finished, Move.pass]

private theorem follows_complete {c : Cursor} {context : Context} (clean : c.pending = [])
    (free : context ≠ .label) (leads : context.Leads c.options c.ahead) :
    Follows
      { tokens := [(c.position.after c.ahead).token c.file .endOfInput [] false]
        ending := .complete }
      c (contextTurn context c).pass := by
  have ahead : c.ahead = c.ahead ++ ([] ++ []) := by simp
  have ended : Follows { ending := .complete } ((c.read c.ahead []).finalize .endOfInput)
      { cursor := (c.read c.ahead []).finalize .endOfInput } :=
    { tokens := rfl
      warnings := rfl
      fault := rfl
      ahead := by simp [Cursor.ahead_read ahead]
      behind := by simp [Cursor.ahead_read ahead]
      position := by simp [Cursor.ahead_read ahead]
      pending := rfl
      latest := rfl
      count := rfl
      file := rfl
      options := rfl }
  rw [turn_complete free leads rfl, Move.pass, passFrom_of_finished rfl]
  exact ended.cons clean ahead false none

private theorem follows_broken {c : Cursor} {context : Context} {cause : Cause}
    {lead opening value before : List Char} (clean : c.pending = [])
    (unfinished : Unfinished c.options context lead opening value cause before)
    (ahead : c.ahead = lead ++ (opening ++ value)) :
    Follows { ending := .broken ⟨cause, (c.position.after (lead ++ before)).toSpan c.file⟩ value }
      c (contextTurn context c).pass := by
  rw [turn_of_unfinished unfinished ahead, Move.pass]
  have ahead : c.ahead = (lead ++ opening) ++ (value ++ []) := by simp [ahead]
  exact
    { tokens := rfl
      warnings := rfl
      fault := rfl
      ahead := Cursor.ahead_read ahead
      behind := by rw [Cursor.behind_read ahead, ahead, List.append_nil]
      position := by rw [Cursor.position_read ahead, ahead, List.append_nil]
      pending := Cursor.pending_read ahead clean
      latest := c.latest_read _ _
      count := c.count_read _ _
      file := c.file_read _ _
      options := c.options_read _ _ }

/-- A pass that goes on in a context gives what the rest of the source reads as there. The
induction is on the reading; each piece is one turn, after which its end is still to be passed. -/
theorem follows_contextTurn {options : Options} {file : Option String} {context : Context}
    {p : Position} {s : List Char} {reading : Reading}
    (reads : Reads options file context p s reading) (c : Cursor)
    (sameOptions : c.options = options) (sameFile : c.file = file) (clean : c.pending = [])
    (opened : c.finished = false)
    (ahead : c.ahead = s) (position : c.position = p) :
    Follows reading c (contextTurn context c).pass := by
  induction reads generalizing c with
  | complete free leads =>
    subst sameOptions sameFile ahead position
    exact follows_complete clean free leads
  | broken unfinished =>
    subst sameOptions sameFile position
    exact follows_broken clean unfinished ahead
  | @piece context after p piece rest reading lexeme reads ih =>
    subst sameOptions sameFile position
    obtain ⟨resume, emits, settles⟩ := turn_of_lexeme clean lexeme ahead
    have split : c.ahead = piece.gap ++ (piece.value ++ (piece.closing ++ rest)) := by
      simp [ahead, Piece.chars]
    rw [emits, Move.pass]
    refine Follows.cons clean split ?_ _ _
    generalize same : (c.read piece.gap piece.value).finalize piece.kind = next
    have left : next.ahead = piece.closing ++ rest := by
      rw [← same, Cursor.ahead_finalize, Cursor.ahead_read split]
    have going : next.finished = false := by
      rw [← same]
      simpa [Cursor.finished] using lexeme.kind_ne_endOfInput
    rw [passFrom_eq_pass_turn, turn_of_settles settles left going]
    apply Follows.of_skip
    apply ih
    · rw [← same]
      exact c.options_read _ _
    · rw [← same]
      exact c.file_read _ _
    · rw [← same]
      rfl
    · exact going
    · simp [left]
    · rw [Cursor.position_skip, left, List.take_left, ← same]
      rw [Cursor.finalize, Cursor.position_read split, ← Position.after_append, Piece.chars,
        List.append_assoc]

/-- A pass from a cursor with nothing recorded gives what the rest of its source reads as. -/
theorem follows_pass_of_clean {c : Cursor} {reading : Reading} (clean : c.pending = [])
    (opened : c.finished = false)
    (reads : Reads c.options c.file .line c.position c.ahead reading) :
    Follows reading c (pass c) := by
  have settles : Settles .finish [] .line c.ahead := .finish
  rw [pass, passFrom_eq_pass_turn, turn_of_settles settles rfl opened]
  exact follows_contextTurn reads _ rfl rfl clean opened rfl rfl

/-- A pass from the start of a source gives what the source reads as. -/
theorem follows_pass {source : String} {file : Option String} {options : Options}
    {reading : Reading} (reads : Reads options file .line .start source.toList reading) :
    Follows reading (.ofSource source file options) (pass (.ofSource source file options)) :=
  follows_pass_of_clean rfl rfl reads

/-- Every source reads as something, and a pass from its start gives just that. -/
theorem exists_follows_pass (source : String) (file : Option String) (options : Options) :
    ∃ reading, Reads options file .line .start source.toList reading ∧
      Follows reading (.ofSource source file options) (pass (.ofSource source file options)) := by
  obtain ⟨reading, reads⟩ := exists_reads options file .line .start source.toList trivial
  exact ⟨reading, reads, follows_pass reads⟩

/-- The tokens of a source are those of a complete reading. -/
theorem tokenize_eq_ok_iff {source : String} {file : Option String} {options : Options}
    {tokens : List Token} :
    tokenize source file options = .ok tokens ↔
      ∃ reading, Reads options file .line .start source.toList reading ∧
        reading.ending = .complete ∧ reading.tokens = tokens := by
  constructor
  · intro ok
    obtain ⟨reading, reads, follows⟩ := exists_follows_pass source file options
    refine ⟨reading, reads, ?_⟩
    rw [tokenize, Pass.result, follows.fault, follows.tokens] at ok
    cases ending : reading.ending with
    | complete =>
      rw [ending] at ok
      exact ⟨rfl, Except.ok.inj ok⟩
    | broken fault pending =>
      rw [ending] at ok
      cases ok
  · rintro ⟨reading, reads, complete, rfl⟩
    have follows := follows_pass reads
    rw [tokenize, Pass.result, follows.fault, follows.tokens, complete]
    rfl

end Scenario.Scan
