import Mathlib.Data.List.Basic
import Scenario.Proofs.Driving

/-! # Scanning with and without leading blanks

Where blanks before a line are skipped, prose loses the blanks at its start, and prose that is all
blank is not read at all. Nothing else changes: the same source is read once with the blanks and
once without, and the second reading is the first one with its prose trimmed (`reads_trimmed`).

The two readings do not go piece by piece. Where the first reads blank prose, the second has not
moved yet, and passes these blanks only together with the piece that follows.
-/

namespace Scenario.Blanks

open Grammar

/-! ## Trimmed tokens -/

/-- Prose without the blanks at its start: it starts at the first character that is left, and ends
where it did. -/
def trim (source : List Char) (token : Token) : Token :=
  let blanks := token.value.toList.takeWhile Delimiter.isBlank
  let first := Position.start.after (source.take (token.start.toNat + blanks.length))
  { token with
    value := String.ofList (token.value.toList.dropWhile Delimiter.isBlank)
    line := first.line
    column := first.column
    start := token.start + blanks.length }

/-- The tokens of a source with its prose trimmed. Prose of which nothing is left is dropped, and a
tag stays inline only if the prose right before it was kept. -/
def trimmed (source : List Char) (kept : Bool) : List Token → List Token
  | [] => []
  | token :: rest =>
      if token.kind = .text then
        if token.value.toList.all Delimiter.isBlank then trimmed source false rest
        else trim source token :: trimmed source true rest
      else { token with inline := token.inline && kept } :: trimmed source false rest

/-- A reading of a source with its prose trimmed. -/
def trimReading (source : List Char) (kept : Bool) (reading : Reading) : Reading :=
  { reading with tokens := trimmed source kept reading.tokens }

section Cons

variable {source : List Char} {kept : Bool} {token : Token} {reading : Reading}

theorem trimReading_cons_blank (kind : token.kind = .text)
    (blank : ∀ c ∈ token.value.toList, Delimiter.isBlank c = true) :
    trimReading source kept (reading.cons token none) = trimReading source false reading := by
  rw [trimReading, Reading.cons, trimmed, if_pos kind, if_pos (List.all_eq_true.2 blank)]
  rfl

theorem trimReading_cons_text {c : Char} (kind : token.kind = .text)
    (member : c ∈ token.value.toList) (content : Delimiter.isBlank c = false) :
    trimReading source kept (reading.cons token none) =
      (trimReading source true reading).cons (trim source token) none := by
  have some : ¬token.value.toList.all Delimiter.isBlank = true := by
    intro all
    rw [List.all_eq_true.1 all c member] at content
    contradiction
  rw [trimReading, Reading.cons, trimmed, if_pos kind, if_neg some]
  rfl

theorem trimReading_cons_of_ne_text (kind : token.kind ≠ .text) (warning : Option Span) :
    trimReading source kept (reading.cons token warning) =
      (trimReading source false reading).cons { token with inline := token.inline && kept }
        warning := by
  rw [trimReading, Reading.cons, trimmed, if_neg kind]
  rfl

end Cons

/-- What trimming makes of prose at a place of a source. -/
theorem trim_token {before blanks value rest : List Char} {c : Char}
    (blank : ∀ d ∈ blanks, Delimiter.isBlank d = true) (content : Delimiter.isBlank c = false)
    (file : Option String) :
    trim (before ++ (blanks ++ c :: value ++ rest))
        ((Position.start.after before).token file .text (blanks ++ c :: value) false) =
      (Position.start.after (before ++ blanks)).token file .text (c :: value) false := by
  have front : (blanks ++ c :: value).takeWhile Delimiter.isBlank = blanks := by
    rw [List.takeWhile_append_of_pos blank, List.takeWhile_cons_of_neg (by simp [content]),
      List.append_nil]
  have back : (blanks ++ c :: value).dropWhile Delimiter.isBlank = c :: value := by
    rw [List.dropWhile_append_of_pos blank, List.dropWhile_cons_of_neg (by simp [content])]
  have first : (before ++ (blanks ++ c :: value ++ rest)).take (before.length + blanks.length) =
      before ++ blanks := by
    rw [← List.length_append, ← List.append_assoc, ← List.append_assoc, List.append_assoc,
      List.take_left]
  have start : ((Position.start.after before).token file .text (blanks ++ c :: value) false).start
      = (before.length : Int) := by
    simp [Position.token, Position.start]
  simp only [trim, start]
  simp only [Position.token, String.toList_ofList, front, back, Int.toNat_natCast, first]
  simp [Position.start]
  omega

/-! ## Prose behind blanks -/

/-- Blanks are no brackets, so leaving them out does not tear a pair of brackets apart. -/
theorem isProse_of_append {blanks value : List Char}
    (blank : ∀ c ∈ blanks, Delimiter.isBlank c = true) (prose : isProse (blanks ++ value) = true) :
    isProse value = true := by
  induction blanks with
  | nil => exact prose
  | cons c blanks ih =>
    have single : ∀ rest, c = '[' → blanks ++ value = '[' :: rest → False := by
      rintro rest rfl -
      exact absurd (blank '[' List.mem_cons_self) (by decide)
    rw [List.cons_append, isProse.eq_3 _ _ single, Bool.and_eq_true] at prose
    exact ih (fun d member => blank d (List.mem_cons_of_mem _ member)) prose.2

theorem endsInNewline_append (blanks : List Char) (c : Char) (value : List Char) :
    endsInNewline (blanks ++ c :: value) = endsInNewline (c :: value) := by
  rw [endsInNewline, endsInNewline, List.getLast?_append, List.getLast?_cons, Option.some_or]

/-! ## The two readings side by side -/

/-- The contexts of the two readings, and the blanks that only the first of them has read: none, or
blank prose behind which the second is still at the start of a line. -/
inductive Lags : Context → List Char → Context → Prop where
  | none {context : Context} : Lags context [] context
  | blank {inline : Bool} {lead : List Char}
      (blank : ∀ c ∈ lead, Delimiter.isBlank c = true) : Lags (.prose inline) lead .line

/-- Whether a context stands right behind prose. -/
def behindProse : Context → Bool
  | .prose _ => true
  | _ => false

section Lags

variable {context other : Context} {lead : List Char} (lags : Lags context lead other)
include lags

theorem Lags.leads {options : Options} (skip : options.skipBlanks = true) :
    other.Leads options lead := by
  cases lags with
  | none =>
    cases context with
    | line => exact ⟨by simp, by simp⟩
    | prose inline => rfl
    | label => rfl
  | blank blank => exact ⟨blank, by simp [skip]⟩

theorem Lags.free (free : context ≠ .label) : other ≠ .label := by
  cases lags with
  | none => exact free
  | blank blank => simp

/-- A tag is inline in the second reading if it is so in the first, and the prose was kept. -/
theorem Lags.inline : other.inline = (context.inline && behindProse other) := by
  cases lags with
  | none => cases context <;> simp [Context.inline, behindProse]
  | blank blank => simp [Context.inline, behindProse]

end Lags

theorem behindProse_of_lexeme {options : Options} {context after : Context} {piece : Piece}
    {rest : List Char} (lexeme : Lexeme options context piece after rest)
    (kind : piece.kind ≠ .text) : behindProse after = false := by
  cases lexeme with
  | label free leads inside ends => cases ends <;> rfl
  | segment inside ends => cases ends <;> rfl
  | text => simp at kind
  | _ => rfl

section Steps

variable {strict : Bool} {context other : Context} {lead : List Char}
  (lags : Lags context lead other)
include lags

theorem unfinished_of_lags {first opening value before : List Char} {cause : Cause}
    (unfinished : Unfinished { strictTags := strict } context first opening value cause before) :
    Unfinished { strictTags := strict, skipBlanks := true } other lead opening value cause
      before := by
  have leads : other.Leads { strictTags := strict, skipBlanks := true } lead := lags.leads rfl
  cases unfinished with
  | directive free _ inside => exact .directive (lags.free free) leads inside
  | nameless free _ => exact .nameless (lags.free free) leads
  | label free _ content inside => exact .label (lags.free free) leads content inside
  | segment content inside =>
    cases lags with
    | none => exact .segment content inside
  | tag strict free _ inside single => exact .tag strict (lags.free free) leads inside single

/-- A piece that is not prose is read by both, the second time behind the blanks left over. -/
theorem lexeme_of_lags {after : Context} {piece : Piece} {rest : List Char}
    (lexeme : Lexeme { strictTags := strict } context piece after rest)
    (kind : piece.kind ≠ .text) :
    Lexeme { strictTags := strict, skipBlanks := true } other
      { piece with lead, inline := piece.inline && behindProse other } after rest := by
  have leads : other.Leads { strictTags := strict, skipBlanks := true } lead := lags.leads rfl
  cases lexeme with
  | directive free _ inside ends => exact .directive (lags.free free) leads inside ends
  | tag free _ inside single =>
    simp only [← lags.inline]
    exact .tag (lags.free free) leads inside single
  | openTag lenient free _ inside single =>
    simp only [← lags.inline]
    exact .openTag lenient (lags.free free) leads inside single
  | label free _ inside ends => exact .label (lags.free free) leads inside ends
  | segment inside ends =>
    cases lags with
    | none => exact .segment inside ends
  | text => simp at kind

theorem reads_behind {file : Option String} {q : Position} {after : Context} {piece : Piece}
    {rest : List Char} {reading : Reading}
    (lexeme : Lexeme { strictTags := strict } context piece after rest)
    (kind : piece.kind ≠ .text)
    (later : Reads { strictTags := strict, skipBlanks := true } file after
      (q.after (lead ++ piece.chars)) rest reading) :
    Reads { strictTags := strict, skipBlanks := true } file other q
      (lead ++ (piece.chars ++ rest))
      (reading.cons
        { piece.token (q.after lead) file with inline := piece.inline && behindProse other }
        (piece.warning (q.after lead) file)) := by
  have none : piece.lead = [] := lexeme.leads.eq_nil rfl
  let moved : Piece := { piece with lead, inline := piece.inline && behindProse other }
  have chars : moved.chars = lead ++ piece.chars := by
    simp [moved, Piece.chars, Piece.gap, none]
  have token : moved.token q file =
      { piece.token (q.after lead) file with inline := piece.inline && behindProse other } := by
    simp [moved, Piece.token, Piece.gap, none, Position.after_append, Position.token]
  have warning : moved.warning q file = piece.warning (q.after lead) file := by
    simp [moved, Piece.warning, none]
  rw [← chars] at later
  have whole := Reads.piece (lexeme_of_lags lags lexeme kind) later
  rwa [token, warning, chars, List.append_assoc] at whole

end Steps

/-- Prose that is not all blank is read by both, the second time from its first character on that
is no blank. -/
theorem reads_prose {strict : Bool} {file : Option String} {q : Position} {c : Char}
    {blanks value rest : List Char} {reading : Reading}
    (blank : ∀ d ∈ blanks, Delimiter.isBlank d = true) (content : Delimiter.isBlank c = false)
    (prose : isProse (blanks ++ c :: value) = true) (stops : stopsProse rest = true)
    (later : Reads { strictTags := strict, skipBlanks := true } file
      (.prose !(endsInNewline (blanks ++ c :: value))) (q.after (blanks ++ c :: value)) rest
      reading) :
    Reads { strictTags := strict, skipBlanks := true } file .line q (blanks ++ c :: value ++ rest)
      (reading.cons ((q.after blanks).token file .text (c :: value) false) none) := by
  have lexeme : Lexeme { strictTags := strict, skipBlanks := true } .line
      { lead := blanks, kind := .text, value := c :: value } (.prose !(endsInNewline (c :: value)))
      rest :=
    .text ⟨blank, by simp⟩ (List.cons_ne_nil c value) (isProse_of_append blank prose) stops
      (by simpa using content)
  rw [endsInNewline_append] at later
  have whole : Reads _ file .line q _ _ :=
    .piece lexeme (by simpa [Piece.chars, Piece.gap] using later)
  simpa [Piece.chars, Piece.gap, Piece.token, Piece.warning] using whole

/-- Blank prose is left to whatever follows it, and other prose loses its blanks. -/
theorem reads_trimmed_text {strict : Bool} {file : Option String} {before value rest : List Char}
    {reading : Reading} (prose : isProse value = true) (stops : stopsProse rest = true)
    (later : ∀ {other lead} front, Lags (.prose !(endsInNewline value)) lead other →
      before ++ value = front ++ lead →
      Reads { strictTags := strict, skipBlanks := true } file other (Position.start.after front)
        (lead ++ rest) (trimReading (front ++ (lead ++ rest)) (behindProse other) reading)) :
    Reads { strictTags := strict, skipBlanks := true } file .line (Position.start.after before)
      (value ++ rest)
      (trimReading (before ++ (value ++ rest)) false
        (reading.cons ((Position.start.after before).token file .text value false) none)) := by
  rcases all_or_split (!Delimiter.isBlank ·) value with all | ⟨blanks, c, tail, rfl, front, stop⟩
  · have blank : ∀ c ∈ value, Delimiter.isBlank c = true := by simpa using all
    have whole := later before (.blank blank) rfl
    rw [trimReading_cons_blank rfl (by simpa [Position.token] using blank)]
    exact whole
  · have blank : ∀ d ∈ blanks, Delimiter.isBlank d = true := by simpa using front
    have content : Delimiter.isBlank c = false := by simpa using stop
    have whole := later (before ++ (blanks ++ c :: tail)) .none (List.append_nil _).symm
    rw [Position.after_append] at whole
    have member : c ∈ ((Position.start.after before).token file .text (blanks ++ c :: tail)
        false).value.toList := by simp [Position.token]
    rw [trimReading_cons_text rfl member content, trim_token blank content file,
      Position.after_append]
    rw [List.append_assoc, List.nil_append] at whole
    exact reads_prose blank content prose stops whole

/-- The induction is on the first reading. It carries the blanks that the second one has still to
pass, and all of the source before them, in which the coordinates of trimmed prose are counted. -/
theorem reads_trimmed {strict : Bool} {file : Option String} {context other : Context}
    {p : Position} {s lead : List Char} {reading : Reading}
    (reads : Reads { strictTags := strict } file context p s reading)
    (lags : Lags context lead other) (before : List Char)
    (reached : p = Position.start.after (before ++ lead)) :
    Reads { strictTags := strict, skipBlanks := true } file other (Position.start.after before)
      (lead ++ s) (trimReading (before ++ (lead ++ s)) (behindProse other) reading) := by
  induction reads generalizing other lead before with
  | @complete context p first free leads =>
    obtain rfl : first = [] := leads.eq_nil rfl
    subst reached
    rw [List.append_nil, trimReading, trimmed, if_neg (by simp [Position.token]), trimmed,
      Position.after_append]
    exact .complete (lags.free free) (lags.leads rfl)
  | @broken context p first opening value skipped cause unfinished =>
    obtain rfl : first = [] := unfinished.leads.eq_nil rfl
    subst reached
    have place : (Position.start.after before).after (lead ++ skipped) =
        (Position.start.after (before ++ lead)).after skipped := by
      rw [Position.after_append, Position.after_append]
    have broken : Reads _ file other (Position.start.after before) (lead ++ (opening ++ value)) _ :=
      .broken (unfinished_of_lags lags unfinished)
    rw [place] at broken
    exact broken
  | @piece context after p piece rest reading lexeme reads ih =>
    subst reached
    by_cases text : piece.kind = .text
    · cases lexeme with
      | @text first value rest leads content prose stops _ =>
        obtain rfl : first = [] := leads.eq_nil rfl
        cases lags
        rw [List.append_nil] at ih
        have chars : ({ kind := .text, value } : Piece).chars = value := by
          simp [Piece.chars, Piece.gap]
        have whole : Reads _ file .line (Position.start.after before) (value ++ rest) _ :=
          reads_trimmed_text prose stops fun front lags same =>
            ih lags front (by rw [chars, ← same, Position.after_append])
        rw [List.nil_append, chars]
        simpa [Piece.token, Piece.gap, Piece.warning, behindProse] using whole
      | _ => simp at text
    · have later := ih .none (before ++ (lead ++ piece.chars)) (by simp [Position.after_append])
      rw [Position.after_append, behindProse_of_lexeme lexeme text] at later
      have whole := reads_behind lags lexeme text later
      rw [← Position.after_append] at whole
      rw [trimReading_cons_of_ne_text text]
      simp only [List.append_assoc] at whole
      exact whole

theorem pass_trimmed (source : String) (file : Option String) (strict : Bool) :
    let keeping := Scan.pass (.ofSource source file { strictTags := strict, skipBlanks := false })
    let skipping := Scan.pass (.ofSource source file { strictTags := strict, skipBlanks := true })
    skipping.fault = keeping.fault ∧ skipping.warnings = keeping.warnings ∧
      skipping.tokens = trimmed source.toList false keeping.tokens := by
  intro keeping skipping
  obtain ⟨reading, reads, follows⟩ :=
    Scan.exists_follows_pass source file { strictTags := strict, skipBlanks := false }
  have skipped := Scan.follows_pass (reads_trimmed reads .none [] rfl)
  refine ⟨?_, ?_, ?_⟩
  · rw [skipped.fault, follows.fault]
    rfl
  · rw [skipped.warnings, follows.warnings]
    rfl
  · rw [skipped.tokens, follows.tokens]
    rfl

/-- Skipping blanks changes nothing but the prose, which is trimmed: a source is refused for the
same fault at the same place or not at all, and gives the same tokens otherwise. So listeners who
leave the scan alone are given the same tokens but for this, and the scan ends the same way. -/
theorem pass_skipBlanks (source : String) (file : Option String) (strict : Bool) :
    let keeping := Cursor.ofSource source file { strictTags := strict, skipBlanks := false }
    let skipping := Cursor.ofSource source file { strictTags := strict, skipBlanks := true }
    (Scan.pass skipping).fault = (Scan.pass keeping).fault ∧
      (Scan.pass skipping).warnings = (Scan.pass keeping).warnings ∧
      (Scan.pass skipping).tokens = trimmed source.toList false (Scan.pass keeping).tokens ∧
      ∀ {number : Nat} {registry : Registry} {holds : Session → Prop} {s t : Session},
        Session.Undisturbed number registry.subscriptions holds → holds s → holds t →
        s.scanners[number]? = some ⟨keeping, registry⟩ →
        t.scanners[number]? = some ⟨skipping, registry⟩ →
        ∃ result s' t', Session.Yields (Session.exec · (.pass number)) s result s' ∧
          Session.Yields (Session.exec · (.pass number)) t result t' ∧
          Session.Delivers number (Scan.pass keeping).tokens s s' ∧
          Session.Delivers number (trimmed source.toList false (Scan.pass keeping).tokens) t
            t' := by
  intro keeping skipping
  obtain ⟨fault, warnings, tokens⟩ := pass_trimmed source file strict
  refine ⟨fault, warnings, tokens, ?_⟩
  intro number registry holds s t quiet heldKeeping heldSkipping foundKeeping foundSkipping
  obtain ⟨s', first, delivers, -⟩ := Session.exists_yields_pass quiet heldKeeping foundKeeping
  obtain ⟨t', second, trims, -⟩ := Session.exists_yields_pass quiet heldSkipping foundSkipping
  have same : Session.outcome (Scan.pass skipping) = Session.outcome (Scan.pass keeping) := by
    rw [Session.outcome, Session.outcome, fault]
  rw [same] at second
  rw [tokens] at trims
  exact ⟨_, s', t', first, second, delivers, trims⟩

/-- The tokens of the source below with its blanks. -/
def indented : List Token :=
  [{ kind := .text, value := "  ", stop := 2 },
   { kind := .tag, value := "a", inline := true, column := 4, start := 3, stop := 4 },
   { kind := .text, value := " b", column := 6, start := 5, stop := 7 },
   { kind := .tag, value := "c", inline := true, column := 9, start := 8, stop := 9 },
   { kind := .text, value := "\n", column := 11, start := 10, stop := 11 },
   { kind := .endOfInput, value := "", line := 2, start := 11, stop := 11 }]

/-- The tag behind blanks is inline only where the blanks are read as prose. -/
theorem pass_skipBlanks_indented :
    ∃ result s t,
      Session.Yields (Session.exec · (.pass 0))
        (Session.audience (.ofSource "  [a] b[c]\n" none {})) result s ∧
      Session.Yields (Session.exec · (.pass 0))
        (Session.audience (.ofSource "  [a] b[c]\n" none { skipBlanks := true })) result t ∧
      Session.Delivers 0 indented (Session.audience (.ofSource "  [a] b[c]\n" none {})) s ∧
      Session.Delivers 0
        [{ kind := .tag, value := "a", column := 4, start := 3, stop := 4 },
         { kind := .text, value := "b", column := 7, start := 6, stop := 7 },
         { kind := .tag, value := "c", inline := true, column := 9, start := 8, stop := 9 },
         { kind := .endOfInput, value := "", line := 2, start := 11, stop := 11 }]
        (Session.audience (.ofSource "  [a] b[c]\n" none { skipBlanks := true })) t := by
  have tokens : (Scan.pass (.ofSource "  [a] b[c]\n" none {})).tokens = indented := by cbv
  have kept : trimmed "  [a] b[c]\n".toList false indented =
      [{ kind := .tag, value := "a", column := 4, start := 3, stop := 4 },
       { kind := .text, value := "b", column := 7, start := 6, stop := 7 },
       { kind := .tag, value := "c", inline := true, column := 9, start := 8, stop := 9 },
       { kind := .endOfInput, value := "", line := 2, start := 11, stop := 11 }] := by cbv
  obtain ⟨-, -, -, delivered⟩ := pass_skipBlanks "  [a] b[c]\n" none false
  have given := delivered (s := Session.audience (.ofSource "  [a] b[c]\n" none {}))
    (Session.undisturbed_passive 0 _) (Session.passive_audience _)
    (Session.passive_audience (.ofSource "  [a] b[c]\n" none { skipBlanks := true })) rfl rfl
  rwa [tokens, kept] at given

end Scenario.Blanks
