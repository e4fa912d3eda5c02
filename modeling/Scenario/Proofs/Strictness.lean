import Mathlib.Data.List.Basic
import Scenario.Journal
import Scenario.Proofs.Diagnostic
import Scenario.Proofs.Driving

/-! # Scanning with strict and with lenient tags

A tag that is not closed takes all that is left of the source. Where tags have to be closed the
source is refused for it, and where they need not be it is read as the last tag, with a warning
(`Relaxed`). The two readings of a source are the same up to there, and nothing follows it that
they could differ in (`exists_relaxed`).
-/

namespace Scenario.Strictness

open Grammar

/-! ## Readings -/

/-- How the strict and the lenient reading of a text that starts at a position belong together:
they are the same, or the strict one breaks off at an open tag that the lenient one reads. -/
inductive Relaxed (file : Option String) (p : Position) (s : List Char) :
    Reading → Reading → Prop where
  | same {reading : Reading} (unwarned : reading.warnings = [])
      (closed : ∀ fault ∈ reading.ending.fault?, fault.cause ≠ .openTag) :
      Relaxed file p s reading reading
  | openTag {tokens : List Token} {front value : List Char} (inline : Bool)
      (split : s = front ++ '[' :: value) :
      Relaxed file p s
        { tokens, ending := .broken ⟨.openTag, (p.after front).toSpan file⟩ value }
        { tokens := tokens ++
            [(p.after (front ++ ['['])).token file .tag value inline,
             (p.after s).token file .endOfInput [] false]
          warnings := [(p.after front).toSpan file]
          ending := .complete }

/-- A piece that both read alike, before what they may differ in. -/
theorem Relaxed.cons {file : Option String} {p : Position} {first rest : List Char}
    {strict lenient : Reading} (relaxed : Relaxed file (p.after first) rest strict lenient)
    (token : Token) :
    Relaxed file p (first ++ rest) (strict.cons token none) (lenient.cons token none) := by
  cases relaxed with
  | same unwarned closed => exact .same unwarned closed
  | @openTag tokens front value inline split =>
    have whole : first ++ rest = (first ++ front) ++ '[' :: value := by
      rw [split, List.append_assoc]
    have relaxed : Relaxed file p (first ++ rest) { tokens := token :: tokens, ending := _ } _ :=
      .openTag inline whole
    simp only [List.append_assoc, Position.after_append p first] at relaxed
    exact relaxed

section Options

variable {skip : Bool} {context : Context}

/-- Which blanks are passed has nothing to do with tags. -/
theorem leads_lenient {lead : List Char}
    (leads : context.Leads { strictTags := true, skipBlanks := skip } lead) :
    context.Leads { strictTags := false, skipBlanks := skip } lead := by
  cases context with
  | line => exact leads
  | prose inline => exact leads
  | label => exact leads

/-- No piece is left open where tags have to be closed, and each is one for the lenient too. -/
theorem lexeme_lenient {after : Context} {piece : Piece} {rest : List Char}
    (lexeme : Lexeme { strictTags := true, skipBlanks := skip } context piece after rest)
    (p : Position) (file : Option String) :
    Lexeme { strictTags := false, skipBlanks := skip } context piece after rest ∧
      piece.warning p file = none := by
  cases lexeme with
  | directive free leads inside ends =>
    exact ⟨.directive free (leads_lenient leads) inside ends, by simp [Piece.warning]⟩
  | tag free leads inside single =>
    exact ⟨.tag free (leads_lenient leads) inside single, by simp [Piece.warning]⟩
  | openTag lenient free leads inside single => cases lenient
  | label free leads inside ends =>
    exact ⟨.label free (leads_lenient leads) inside ends, by simp [Piece.warning]⟩
  | segment inside ends => exact ⟨.segment inside ends, by simp [Piece.warning]⟩
  | text leads content prose stops first =>
    exact ⟨.text (leads_lenient leads) content prose stops first, by simp [Piece.warning]⟩

/-- What is cut off by the end of the input: an open tag is read by the lenient, and anything else
is refused by both. -/
theorem exists_relaxed_unfinished {lead opening value before : List Char} {cause : Cause}
    (unfinished : Unfinished { strictTags := true, skipBlanks := skip } context lead opening value
      cause before) (file : Option String) (p : Position) :
    ∃ lenient,
      Reads { strictTags := false, skipBlanks := skip } file context p (lead ++ (opening ++ value))
        lenient ∧
      Relaxed file p (lead ++ (opening ++ value))
        { ending := .broken ⟨cause, (p.after (lead ++ before)).toSpan file⟩ value } lenient := by
  have refused {cause : Cause} {opening before : List Char} (other : cause ≠ .openTag)
      (unfinished : Unfinished { strictTags := false, skipBlanks := skip } context lead opening
        value cause before) :
      ∃ lenient,
        Reads { strictTags := false, skipBlanks := skip } file context p
          (lead ++ (opening ++ value)) lenient ∧
        Relaxed file p (lead ++ (opening ++ value))
          { ending := .broken ⟨cause, (p.after (lead ++ before)).toSpan file⟩ value } lenient :=
    ⟨_, .broken unfinished, .same rfl (by simpa [Ending.fault?] using other)⟩
  cases unfinished with
  | directive free leads inside =>
    exact refused (by simp) (.directive free (leads_lenient leads) inside)
  | nameless free leads => exact refused (by simp) (.nameless free (leads_lenient leads))
  | label free leads content inside =>
    exact refused (by simp) (.label free (leads_lenient leads) content inside)
  | segment content inside => exact refused (by simp) (.segment content inside)
  | tag strict free leads inside single =>
    have lexeme : Lexeme { strictTags := false, skipBlanks := skip } context _ .line [] :=
      .openTag rfl free (leads_lenient leads) inside single
    have ended : Reads { strictTags := false, skipBlanks := skip } file .line
        (p.after (lead ++ '[' :: value)) [] _ := .complete (by simp) ⟨by simp, by simp⟩
    have whole : Reads _ file context p _ _ :=
      .piece lexeme (by simpa [Piece.chars, Piece.gap] using ended)
    have relaxed : Relaxed file p (lead ++ '[' :: value) { tokens := [], ending := _ } _ :=
      .openTag context.inline rfl
    refine ⟨_, ?_, by simpa using relaxed⟩
    simpa [Piece.chars, Piece.gap, Piece.token, Piece.warning, Reading.cons] using whole

/-- The induction is on the strict reading; the lenient one follows it piece by piece. -/
theorem exists_relaxed {file : Option String} {p : Position} {s : List Char} {reading : Reading}
    (reads : Reads { strictTags := true, skipBlanks := skip } file context p s reading) :
    ∃ lenient, Reads { strictTags := false, skipBlanks := skip } file context p s lenient ∧
      Relaxed file p s reading lenient := by
  induction reads with
  | complete free leads =>
    exact ⟨_, .complete free (leads_lenient leads), .same rfl (by simp [Ending.fault?])⟩
  | @broken context p lead opening value before cause unfinished =>
    exact exists_relaxed_unfinished unfinished file p
  | @piece context after p piece rest reading lexeme reads ih =>
    obtain ⟨lenient, later, relaxed⟩ := ih
    obtain ⟨lexeme, unwarned⟩ := lexeme_lenient lexeme p file
    have whole := Reads.piece lexeme later
    rw [unwarned] at whole ⊢
    exact ⟨_, whole, relaxed.cons _⟩

end Options

/-! ## Passes -/

/-- What the lenient pass over a source gives, by how the strict one ends. -/
structure Relents (source : String) (file : Option String) (strict lenient : Scan.Pass) : Prop where
  complete : strict.fault = none →
    lenient.fault = none ∧ lenient.tokens = strict.tokens ∧ lenient.warnings = []
  /-- The tag runs from its bracket, which the fault names, to the end of the source. -/
  openTag : ∀ place, strict.fault = some ⟨.openTag, place⟩ →
    lenient.fault = none ∧ lenient.warnings = [place] ∧
      ∃ (k : Nat) (tag last : Token),
        source.toList[k]? = some '[' ∧
        place = (Position.start.after (source.toList.take k)).toSpan file ∧
        lenient.tokens = strict.tokens ++ [tag, last] ∧
        tag.kind = .tag ∧ tag.value = String.ofList (source.toList.drop (k + 1)) ∧
        last.kind = .endOfInput
  other : ∀ fault, strict.fault = some fault → fault.cause ≠ .openTag →
    lenient.fault = some fault ∧ lenient.tokens = strict.tokens ∧ lenient.warnings = []

theorem relents_of_relaxed {source : String} {file : Option String} {first second : Cursor}
    {strict lenient : Scan.Pass} {reading other : Reading}
    (relaxed : Relaxed file .start source.toList reading other)
    (follows : Scan.Follows reading first strict) (relents : Scan.Follows other second lenient) :
    Relents source file strict lenient := by
  cases relaxed with
  | same unwarned closed =>
    have fault : lenient.fault = strict.fault := by rw [relents.fault, follows.fault]
    have tokens : lenient.tokens = strict.tokens := by rw [relents.tokens, follows.tokens]
    have warnings : lenient.warnings = [] := by rw [relents.warnings, unwarned]
    constructor
    case complete =>
      intro ok
      exact ⟨by rw [fault, ok], tokens, warnings⟩
    case openTag =>
      intro place failed
      rw [follows.fault] at failed
      exact absurd rfl (closed _ failed)
    case other =>
      intro found failed _
      exact ⟨by rw [fault, failed], tokens, warnings⟩
  | @openTag tokens front value inline split =>
    have fault : strict.fault = some ⟨.openTag, (Position.start.after front).toSpan file⟩ :=
      follows.fault
    constructor
    case complete =>
      intro ok
      rw [fault] at ok
      cases ok
    case openTag =>
      intro place failed
      rw [fault] at failed
      cases failed
      have read : lenient.tokens = strict.tokens ++ _ :=
        relents.tokens.trans (congrArg (· ++ _) follows.tokens.symm)
      refine ⟨relents.fault, relents.warnings, front.length, _, _, ?_, ?_, read, rfl, ?_, rfl⟩
      · simp [split]
      · rw [split, List.take_left]
      · simp [split, Position.token]
    case other =>
      intro found failed cause
      rw [fault] at failed
      cases failed
      exact absurd rfl cause

theorem pass_relents (source : String) (file : Option String) (skip : Bool) :
    Relents source file
      (Scan.pass (.ofSource source file { strictTags := true, skipBlanks := skip }))
      (Scan.pass (.ofSource source file { strictTags := false, skipBlanks := skip })) := by
  obtain ⟨reading, reads, follows⟩ :=
    Scan.exists_follows_pass source file { strictTags := true, skipBlanks := skip }
  obtain ⟨lenient, later, relaxed⟩ := exists_relaxed reads
  exact relents_of_relaxed relaxed follows (Scan.follows_pass later)

/-! ## Records -/

/-- The record of a tag that is left open at a place. -/
def warning (place : Span) : Journal.Entry where
  level := 30
  logger := Journal.root ++ ".lexer.rules"
  text := place.render ++ ": inline tag has no closing ']', read to end of input"

/-- The warnings among all records of a scan with a number of listeners. -/
def warned (start : Cursor) (listeners : Nat) : List Journal.Entry :=
  (Journal.registrations listeners ++
    Journal.passEntries start (Scan.pass start) listeners).filter (·.level == 30)

/-- The warnings are those of the pass. -/
theorem warned_eq (start : Cursor) (listeners : Nat) :
    warned start listeners = (Scan.pass start).warnings.map warning := by
  have registered : (Journal.registrations listeners).filter (·.level == 30) = [] := by
    rw [List.filter_eq_nil_iff]
    intro entry member
    obtain ⟨i, -, member⟩ := List.mem_flatMap.1 member
    rcases (by simpa using member : _ ∨ _ ∨ _) with rfl | rfl | rfl <;> simp
  have kept : ((Scan.pass start).warnings.map warning).filter (·.level == 30) =
      (Scan.pass start).warnings.map warning := by
    rw [List.filter_eq_self]
    intro entry member
    obtain ⟨place, -, rfl⟩ := List.mem_map.1 member
    rfl
  rw [warned, List.filter_append, registered, List.nil_append, ← kept]
  unfold Journal.passEntries
  cases (Scan.pass start).fault with
  | none =>
    show List.filter _ (_ :: (Scan.pass start).warnings.map warning ++ [_]) = _
    simp
  | some fault =>
    show List.filter _ (_ :: (Scan.pass start).warnings.map warning ++ []) = _
    simp

/-- Strict and lenient tags differ only at a tag that is never closed. A source without one gives
the same either way, whether it is refused or not, and no warning. With one, the strict scan ends at
its bracket, while the lenient one reads it as the last tag and warns once; the warning begins with
the place that the words of the fault begin with. Listeners who leave the scan alone are given the
tokens of the one pass or of the other. -/
theorem pass_strictTags (source : String) (file : Option String) (skip : Bool) :
    let strict := Cursor.ofSource source file { strictTags := true, skipBlanks := skip }
    let lenient := Cursor.ofSource source file { strictTags := false, skipBlanks := skip }
    Relents source file (Scan.pass strict) (Scan.pass lenient) ∧
      (∀ listeners,
        warned lenient listeners = (Scan.pass lenient).warnings.map warning) ∧
      (∀ fault ∈ (Scan.pass strict).fault,
        fault.diagnostic.message = fault.place.render ++ " " ++ fault.cause.text) ∧
      ∀ {number : Nat} {registry : Registry} {holds : Session → Prop} {s t : Session},
        Session.Undisturbed number registry.subscriptions holds → holds s → holds t →
        s.scanners[number]? = some ⟨strict, registry⟩ →
        t.scanners[number]? = some ⟨lenient, registry⟩ →
        ∃ s' t',
          Session.Yields (Session.exec · (.pass number)) s (Session.outcome (Scan.pass strict)) s' ∧
          Session.Yields (Session.exec · (.pass number)) t (Session.outcome (Scan.pass lenient))
            t' ∧
          Session.Delivers number (Scan.pass strict).tokens s s' ∧
          Session.Delivers number (Scan.pass lenient).tokens t t' := by
  intro strict lenient
  refine ⟨pass_relents source file skip, warned_eq lenient, fun fault _ => fault.message_eq, ?_⟩
  intro number registry holds s t quiet heldStrict heldLenient foundStrict foundLenient
  obtain ⟨s', first, delivers, -⟩ := Session.exists_yields_pass quiet heldStrict foundStrict
  obtain ⟨t', second, relents, -⟩ := Session.exists_yields_pass quiet heldLenient foundLenient
  exact ⟨s', t', first, second, delivers, relents⟩

/-- The second tag of the source below is left open behind prose of its line. -/
theorem pass_strictTags_behind_prose :
    ∃ s t,
      Session.Yields (Session.exec · (.pass 0))
        (Session.audience (.ofSource "a[b]\nc[d" none { strictTags := true }))
        (.error (.fault ⟨.openTag, { line := 2, column := 2, offset := 6, stop := 6 }⟩)) s ∧
      Session.Yields (Session.exec · (.pass 0))
        (Session.audience (.ofSource "a[b]\nc[d" none {})) (.ok {}) t ∧
      Session.Delivers 0
        [{ kind := .text, value := "a", stop := 1 },
         { kind := .tag, value := "b", inline := true, column := 3, start := 2, stop := 3 },
         { kind := .text, value := "\nc", column := 5, start := 4, stop := 6 },
         { kind := .tag, value := "d", inline := true, line := 2, column := 3, start := 7,
           stop := 8 },
         { kind := .endOfInput, value := "", line := 2, column := 4, start := 8, stop := 8 }]
        (Session.audience (.ofSource "a[b]\nc[d" none {})) t ∧
      (warned (.ofSource "a[b]\nc[d" none {}) 1).map (·.text) =
        ["2:2: inline tag has no closing ']', read to end of input"] := by
  have fault : (Scan.pass (.ofSource "a[b]\nc[d" none { strictTags := true })).fault =
      some ⟨.openTag, { line := 2, column := 2, offset := 6, stop := 6 }⟩ := by cbv
  obtain ⟨relents, records, -, delivered⟩ := pass_strictTags "a[b]\nc[d" none false
  obtain ⟨s, t, refused, read, -, given⟩ := delivered
    (s := Session.audience (.ofSource "a[b]\nc[d" none { strictTags := true }))
    (t := Session.audience (.ofSource "a[b]\nc[d" none {})) (Session.undisturbed_passive 0 _)
    (Session.passive_audience _) (Session.passive_audience _) rfl rfl
  obtain ⟨sound, warnings, -⟩ := relents.openTag _ fault
  have tokens : (Scan.pass (.ofSource "a[b]\nc[d" none {})).tokens =
      [{ kind := .text, value := "a", stop := 1 },
       { kind := .tag, value := "b", inline := true, column := 3, start := 2, stop := 3 },
       { kind := .text, value := "\nc", column := 5, start := 4, stop := 6 },
       { kind := .tag, value := "d", inline := true, line := 2, column := 3, start := 7,
         stop := 8 },
       { kind := .endOfInput, value := "", line := 2, column := 4, start := 8, stop := 8 }] := by
    cbv
  refine ⟨s, t, ?_, ?_, ?_, ?_⟩
  · rw [Session.outcome, fault] at refused
    exact refused
  · rw [Session.outcome, sound] at read
    exact read
  · rw [tokens] at given
    exact given
  · rw [records, warnings]
    cbv

end Scenario.Strictness
