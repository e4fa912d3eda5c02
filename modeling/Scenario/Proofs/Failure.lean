import Mathlib.Data.List.Basic
import Scenario.Proofs.Diagnostic
import Scenario.Proofs.Driving

/-! # What a scan that fails leaves behind

A source that cannot be read to its end is a part that can, and a last piece that the end of the
input cuts off. The tokens before the failure are those of the first part read alone. This needs
that what was read does not change when the text is cut behind it, although each piece looks ahead
(`lexeme_cut`).
-/

namespace Scenario.Failure

open Grammar

/-! ## Cutting a text -/

/-- The context of a text that is cut down to a part of it. After the last bar of a label nothing
is read as a segment if nothing follows. -/
def settled : Context → List Char → Context
  | .label, [] => .line
  | context, _ => context

theorem settled_of_ne_label {context : Context} (free : context ≠ .label) (s : List Char) :
    settled context s = context := by
  cases context with
  | label => exact absurd rfl free
  | line => rfl
  | prose inline => rfl

theorem settled_of_ne_nil (context : Context) {s : List Char} (content : s ≠ []) :
    settled context s = context := by
  cases s with
  | nil => exact absurd rfl content
  | cons c s => cases context <;> rfl

theorem endsLine_cut {newline good bad : List Char} (ends : EndsLine newline (good ++ bad)) :
    EndsLine newline good := by
  rcases ends with feed | both | ⟨carriage, other⟩
  · exact .inl feed
  · exact .inr (.inl both)
  · refine .inr (.inr ⟨carriage, ?_⟩)
    cases good with
    | nil => simp
    | cons c good => simpa using other

theorem stopsProse_cut {good bad : List Char} (stops : stopsProse (good ++ bad) = true) :
    stopsProse good = true := by
  cases good with
  | nil => rfl
  | cons c good =>
    rw [List.cons_append, stopsProse_cons] at stops
    rw [stopsProse_cons]
    refine ⟨stops.1, fun bracket => ?_⟩
    cases good with
    | nil => simp
    | cons d good => simpa using stops.2 bracket

theorem segmentEnd_cut {closing good bad : List Char} {after : Context} (content : bad ≠ [])
    (ends : SegmentEnd closing after (good ++ bad)) :
    SegmentEnd closing (settled after good) good := by
  generalize split : good ++ bad = rest at ends
  cases ends with
  | next fits =>
    cases good with
    | nil => exact .last
    | cons c good =>
      obtain ⟨d, first, plain⟩ := fits
      rw [← split] at first
      exact .next ⟨d, first, plain⟩
  | last => exact absurd (List.append_eq_nil_iff.1 split).2 content
  | bar ends => exact .bar (endsLine_cut (split ▸ ends))
  | line ends => exact .line (endsLine_cut (split ▸ ends))

/-- A piece stands as it is before any part of what followed it. -/
theorem lexeme_cut {options : Options} {context after : Context} {piece : Piece}
    {good bad : List Char} (content : bad ≠ [])
    (lexeme : Lexeme options context piece after (good ++ bad)) :
    Lexeme options context piece (settled after good) good := by
  generalize split : good ++ bad = rest at lexeme
  cases lexeme with
  | directive free leads inside ends =>
    exact .directive free leads inside (endsLine_cut (split ▸ ends))
  | tag free leads inside single => exact .tag free leads inside single
  | openTag lenient free leads inside single =>
    exact absurd (List.append_eq_nil_iff.1 split).2 content
  | label free leads inside ends =>
    exact .label free leads inside (segmentEnd_cut content (split ▸ ends))
  | segment inside ends => exact .segment inside (segmentEnd_cut content (split ▸ ends))
  | text leads filled prose stops first =>
    exact .text leads filled prose (stopsProse_cut (split ▸ stops)) first

/-! ## The piece that is cut off -/

/-- What can be cut off behind a good part with its last token: the text itself, the category and
the words of the failure, how much of the text is passed before the place that is named, and what
is left recorded. -/
inductive Cut (options : Options) (good : List Char) (last : Option Token) :
    List Char → Category → String → List Char → List Char → Prop where
  | directive {value : List Char} (carriage : '\r' ∉ value) (feed : '\n' ∉ value) :
      Cut options good last ('@' :: value) .invalidTag
        "directive is not terminated by a newline" [] value
  | nameless : Cut options good last ['*'] .invalidLabel "label has no name" [] []
  | label {value : List Char} (content : value ≠ []) (bar : '|' ∉ value) (carriage : '\r' ∉ value)
      (feed : '\n' ∉ value) :
      Cut options good last ('*' :: value) .invalidLabel
        "label is not terminated by '|' or a newline" ['*'] value
  /-- A further segment, right behind the bar of a label. -/
  | segment {token : Token} {value : List Char} (previous : last = some token)
      (kind : token.kind = .label) (stop : token.stop + 1 = good.length)
      (ends : good.getLast? = some '|') (content : value ≠ []) (bar : '|' ∉ value)
      (carriage : '\r' ∉ value) (feed : '\n' ∉ value) :
      Cut options good last value .invalidLabel
        "label is not terminated by '|' or a newline" [] value
  | tag {value : List Char} (strict : options.strictTags = true) (bracket : ']' ∉ value) :
      Cut options good last ('[' :: value) .invalidTag
        "inline tag is missing its closing ']'" [] value

/-- A label goes on behind a text: its last character is the bar after its last token. -/
def Continues (before : List Char) (previous : Option Token) : Prop :=
  ∃ token, previous = some token ∧ token.kind = .label ∧ token.stop + 1 = (before.length : Int) ∧
    before.getLast? = some '|'

private theorem continues_of_segmentEnd {closing rest : List Char}
    (ends : SegmentEnd closing .label rest) : closing = ['|'] := by
  cases ends with
  | next fits => rfl

theorem continues_of_lexeme {options : Options} {context : Context} {piece : Piece}
    {p : Position} {before rest : List Char}
    (lexeme : Lexeme options context piece .label rest) (offset : p.offset = before.length)
    (file : Option String) :
    Continues (before ++ piece.chars) (some (piece.token p file)) := by
  have bar : piece.kind = .label ∧ piece.closing = ['|'] := by
    cases lexeme with
    | label free leads inside ends => exact ⟨rfl, continues_of_segmentEnd ends⟩
    | segment inside ends => exact ⟨rfl, continues_of_segmentEnd ends⟩
  obtain ⟨kind, closing⟩ := bar
  refine ⟨_, rfl, kind, ?_, ?_⟩
  · simp only [Piece.token, Position.token, Position.offset_after, offset, Piece.chars, closing,
      List.length_append, List.length_singleton]
    omega
  · simp [Piece.chars, closing]

theorem cut_of_unfinished {options : Options} {context : Context} {previous : Option Token}
    {before lead opening value skipped : List Char} {cause : Cause}
    (unfinished : Unfinished options context lead opening value cause skipped)
    (behind : context = .label → Continues before previous) :
    Cut options (before ++ lead) previous (opening ++ value) cause.category cause.text skipped
      value := by
  cases unfinished with
  | directive free leads inside =>
    obtain ⟨carriage, feed⟩ := absent_of_not_isNewline inside
    exact .directive carriage feed
  | nameless free leads => exact .nameless
  | label free leads content inside =>
    obtain ⟨bar, carriage, feed⟩ := absent_of_not_endsSegment inside
    exact .label content bar carriage feed
  | segment content inside =>
    obtain ⟨token, same, kind, stop, ends⟩ := behind rfl
    obtain ⟨bar, carriage, feed⟩ := absent_of_not_endsSegment inside
    rw [List.append_nil]
    exact .segment same kind stop ends content bar carriage feed
  | tag strict free leads inside single => exact .tag strict fun member => inside _ member rfl

/-- What was passed before the piece that is cut off reads alone as the end of the input. -/
private theorem reads_lead {options : Options} {context : Context} {lead : List Char}
    (leads : context.Leads options lead) (file : Option String) (p : Position) :
    Reads options file (settled context lead) p lead
      { tokens := [(p.after lead).token file .endOfInput [] false], ending := .complete } := by
  by_cases segment : context = .label
  · subst segment
    obtain rfl : lead = [] := leads
    exact .complete (by simp [settled]) ⟨by simp, fun _ => rfl⟩
  · rw [settled_of_ne_label segment]
    exact .complete segment leads

private theorem getLast?_or_some {α : Type} (first : α) (rest : List α) (previous : Option α) :
    rest.getLast?.or (some first) = (first :: rest).getLast?.or previous := by
  rw [List.getLast?_cons]
  cases rest.getLast? <;> rfl

/-- A reading that breaks off splits its text into a good part, which reads to its end with the
same tokens, and what is cut off. -/
theorem exists_cut {options : Options} {file : Option String} {context : Context} {p : Position}
    {s : List Char} {reading : Reading} {fault : Fault} {pending : List Char}
    {previous : Option Token} (reads : Reads options file context p s reading)
    (broken : reading.ending = .broken fault pending) (before : List Char)
    (offset : p.offset = before.length) (behind : context = .label → Continues before previous) :
    ∃ good bad skipped warnings, s = good ++ bad ∧ bad ≠ [] ∧
      Reads options file (settled context good) p good
        { tokens := reading.tokens ++ [(p.after good).token file .endOfInput [] false]
          warnings
          ending := .complete } ∧
      fault.place = (p.after (good ++ skipped)).toSpan file ∧
      Cut options (before ++ good) (reading.tokens.getLast?.or previous) bad fault.cause.category
        fault.cause.text skipped pending := by
  induction reads generalizing before previous with
  | complete free leads => cases broken
  | @broken context p lead opening value skipped cause unfinished =>
    obtain ⟨rfl, rfl⟩ := Ending.broken.inj broken
    exact ⟨lead, opening ++ value, skipped, [], rfl, unfinished.chars_ne_nil,
      reads_lead unfinished.leads file p, rfl, cut_of_unfinished unfinished behind⟩
  | @piece context after p piece rest reading lexeme reads ih =>
    have continues : after = .label →
        Continues (before ++ piece.chars) (some (piece.token p file)) := by
      rintro rfl
      exact continues_of_lexeme lexeme offset file
    obtain ⟨good, bad, skipped, warnings, rfl, content, whole, place, cut⟩ :=
      ih broken (before ++ piece.chars) (by simp [offset]) continues
    have shorter := Reads.piece (lexeme_cut content lexeme) whole
    refine ⟨piece.chars ++ good, bad, skipped, (piece.warning p file).toList ++ warnings, ?_,
      content, ?_, ?_, ?_⟩
    · rw [List.append_assoc]
    · rw [settled_of_ne_nil context (by simp [lexeme.chars_ne_nil]), Position.after_append]
      exact shorter
    · rw [place, List.append_assoc, Position.after_append p]
    · rw [List.append_assoc, getLast?_or_some] at cut
      exact cut

/-! ## Whole passes -/

/-- A pass that fails between a good and a bad part of its source: what it has read, what it says
is wrong and where, and where it leaves the cursor. -/
structure Breaks (options : Options) (file : Option String) (good bad : String)
    (pass : Scan.Pass) (fault : Fault) : Prop where
  complete : ∃ last, tokenize good file options = .ok (pass.tokens ++ [last]) ∧
    last.kind = .endOfInput
  cut : ∃ skipped,
    Cut options good.toList pass.tokens.getLast? bad.toList fault.cause.category fault.cause.text
      skipped pass.cursor.pending ∧
    fault.place = (Position.start.after (good.toList ++ skipped)).toSpan file
  message : fault.diagnostic.message = fault.place.render ++ " " ++ fault.cause.text
  position : pass.cursor.position.offset = (good ++ bad).length
  latest : pass.cursor.latest = pass.tokens.getLast?.map (·.kind)
  count : pass.cursor.count = pass.tokens.length

theorem exists_breaks {source : String} {file : Option String} {options : Options} {fault : Fault}
    (failed : (Scan.pass (.ofSource source file options)).fault = some fault) :
    ∃ good bad, source = good ++ bad ∧
      Breaks options file good bad (Scan.pass (.ofSource source file options)) fault := by
  obtain ⟨reading, reads, follows⟩ := Scan.exists_follows_pass source file options
  rw [follows.fault] at failed
  cases ending : reading.ending with
  | complete =>
    rw [ending] at failed
    cases failed
  | broken other pending =>
    obtain rfl : other = fault := by simpa [ending, Ending.fault?] using failed
    have start : Context.line = .label → Continues [] none := by simp
    obtain ⟨good, bad, skipped, warnings, split, -, whole, place, cut⟩ :=
      exists_cut reads ending [] rfl start
    have joined : source = String.ofList good ++ String.ofList bad := by
      rw [← String.ofList_append, ← split, String.ofList_toList]
    refine ⟨String.ofList good, String.ofList bad, joined, ?_⟩
    exact
      { complete := by
          refine ⟨(Position.start.after good).token file .endOfInput [] false, ?_, rfl⟩
          rw [Scan.tokenize_eq_ok_iff, String.toList_ofList, follows.tokens]
          exact ⟨_, whole, rfl, rfl⟩
        cut := by
          refine ⟨skipped, ?_, ?_⟩
          · rw [follows.tokens, follows.pending, ending, String.toList_ofList, String.toList_ofList]
            simpa [Ending.pending] using cut
          · rw [String.toList_ofList]
            exact place
        message := other.message_eq
        position := by
          rw [follows.position, ← joined, ← String.length_toList]
          simp [Cursor.ofSource, Position.start]
        latest := by
          rw [follows.latest, follows.tokens]
          simp [Cursor.ofSource]
        count := by
          rw [follows.count, follows.tokens]
          simp [Cursor.ofSource] }

open Session in
/-- Where scanning a fresh cursor to the end fails before listeners who leave the scan alone, they
have been given the tokens of a good part of the source, and the rest of it is cut off. -/
theorem exec_pass_breaks {session after : Session} {number : Nat} {source : String}
    {file : Option String} {options : Options} {registry : Registry} {holds : Session → Prop}
    {fault : Fault}
    (found : session.scanners[number]? = some ⟨.ofSource source file options, registry⟩)
    (quiet : Undisturbed number registry.subscriptions holds) (held : holds session)
    (failed : Yields (exec · (.pass number)) session (.error (.fault fault)) after) :
    ∃ good bad, source = good ++ bad ∧
      Delivers number (Scan.pass (.ofSource source file options)).tokens session after ∧
      after.scanners[number]? =
        some ⟨(Scan.pass (.ofSource source file options)).cursor, registry⟩ ∧
      Breaks options file good bad (Scan.pass (.ofSource source file options)) fault := by
  obtain ⟨reached, yields, delivers, left⟩ := exists_yields_pass quiet held found
  obtain ⟨same, rfl⟩ := yields.unique failed
  have fails : (Scan.pass (.ofSource source file options)).fault = some fault := by
    rw [outcome] at same
    split at same
    · cases same
    · next other there =>
      cases same
      exact there
  obtain ⟨good, bad, split, breaks⟩ := exists_breaks fails
  exact ⟨good, bad, split, delivers, left, breaks⟩

open Session in
/-- A third segment, behind an empty one, is cut off in a file whose name ends in a colon. -/
theorem exec_pass_breaks_segment :
    ∃ after good bad,
      Yields (exec · (.pass 0)) (audience (.ofSource "a[b]\n*p||q" (some "x:") {}))
        (.error (.fault ⟨.openLabel,
          { line := 2, column := 5, offset := 9, stop := 9, file := some "x:" }⟩)) after ∧
      "a[b]\n*p||q" = good ++ bad ∧
      Breaks {} (some "x:") good bad (Scan.pass (.ofSource "a[b]\n*p||q" (some "x:") {}))
        ⟨.openLabel, { line := 2, column := 5, offset := 9, stop := 9, file := some "x:" }⟩ := by
  have found : (audience (.ofSource "a[b]\n*p||q" (some "x:") {})).scanners[0]? = some _ := rfl
  have fault : (Scan.pass (.ofSource "a[b]\n*p||q" (some "x:") {})).fault = some
      ⟨.openLabel, { line := 2, column := 5, offset := 9, stop := 9, file := some "x:" }⟩ := by
    cbv
  obtain ⟨after, yields, -⟩ :=
    exists_yields_pass (undisturbed_passive 0 _) (passive_audience _) found
  rw [outcome, fault] at yields
  obtain ⟨good, bad, split, -, -, breaks⟩ :=
    exec_pass_breaks found (undisturbed_passive 0 _) (passive_audience _) yields
  exact ⟨after, good, bad, yields, split, breaks⟩

end Scenario.Failure
