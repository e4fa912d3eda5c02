import Mathlib.Data.List.Basic
import Scenario.Proofs.Driving

/-! # Scanning on from the middle of a source

What a scan does from some place on depends on the text ahead of it alone. Where it stands, and
what it has read so far, only moves the coordinates: a text behind a position reads as the same
text read alone, with every token and every fault shifted there (`reads_shift`).

The places to go on from are those with nothing recorded. A scan is at such a place after every
line that it reads to its end, and also where a listener stops it (`Lines.clean`).
-/

namespace Scenario

/-! ## Shifted coordinates -/

/-- The line of a text that starts at a position, counted in the whole source. -/
def Position.shiftLine (p : Position) (line : Int) : Int := line + (p.line - 1)

/-- The column likewise. Only the first line of the text starts in the middle of a line. -/
def Position.shiftColumn (p : Position) (line column : Int) : Int :=
  if line = 1 then column + (p.column - 1) else column

/-- The token of a text that starts at a position, seen in the whole source. -/
def Token.shift (p : Position) (token : Token) : Token :=
  { token with
    line := p.shiftLine token.line
    column := p.shiftColumn token.line token.column
    start := token.start + p.offset
    stop := token.stop + p.offset }

/-- The span of a text that starts at a position, seen in the whole source. -/
def Span.shift (p : Position) (span : Span) : Span :=
  { span with
    line := p.shiftLine span.line
    column := p.shiftColumn span.line span.column
    offset := span.offset + p.offset
    stop := span.stop + p.offset }

/-- The fault of a text that starts at a position: the same cause, at the shifted place. -/
def Fault.shift (p : Position) (fault : Fault) : Fault :=
  { fault with place := fault.place.shift p }

namespace Position

theorem shiftLine_after (p : Position) (front : List Char) :
    p.shiftLine (start.after front).line = (p.after front).line := by
  simp only [shiftLine, after, start]
  omega

/-- A column is counted from the last line feed, and from the position only if there is none. -/
theorem shiftColumn_after (p : Position) (front : List Char) :
    p.shiftColumn (start.after front).line (start.after front).column =
      (p.after front).column := by
  by_cases plain : front.count '\n' = 0
  · have first : ((start.after front).line : Int) = 1 := by
      simp only [after, start, plain]
      omega
    rw [shiftColumn, if_pos first]
    simp only [after, start, plain, if_true]
    omega
  · have further : ((start.after front).line : Int) ≠ 1 := by
      simp only [after, start]
      omega
    rw [shiftColumn, if_neg further]
    simp only [after, plain, if_false]

theorem shift_token (p : Position) (front : List Char) (file : Option String) (kind : Kind)
    (value : List Char) (inline : Bool) :
    ((start.after front).token file kind value inline).shift p =
      (p.after front).token file kind value inline := by
  simp only [Token.shift, Position.token, shiftLine_after, shiftColumn_after, Token.mk.injEq,
    true_and, and_true]
  simp only [offset_after, start]
  omega

theorem shift_toSpan (p : Position) (front : List Char) (file : Option String) :
    ((start.after front).toSpan file).shift p = (p.after front).toSpan file := by
  simp only [Span.shift, toSpan, shiftLine_after, shiftColumn_after, Span.mk.injEq, true_and,
    and_true]
  simp only [offset_after, start]
  omega

end Position

namespace Grammar

/-- The ending of a text that starts at a position. -/
def Ending.shift (p : Position) : Ending → Ending
  | .complete => .complete
  | .broken fault pending => .broken (fault.shift p) pending

/-- The reading of a text that starts at a position. -/
def Reading.shift (p : Position) (reading : Reading) : Reading :=
  { tokens := reading.tokens.map (·.shift p)
    warnings := reading.warnings.map (·.shift p)
    ending := reading.ending.shift p }

theorem Piece.shift_token (piece : Piece) (p : Position) (front : List Char)
    (file : Option String) :
    (piece.token (.after .start front) file).shift p = piece.token (p.after front) file := by
  rw [token, ← Position.after_append, Position.shift_token, Position.after_append]
  rfl

theorem Piece.shift_warning (piece : Piece) (p : Position) (front : List Char)
    (file : Option String) :
    (piece.warning (.after .start front) file).map (·.shift p) =
      piece.warning (p.after front) file := by
  rw [warning, warning]
  split
  · rw [Option.map_some, ← Position.after_append, Position.shift_toSpan, Position.after_append]
  · rfl

/-- The same text read behind another position. The induction carries what was read before, since
a line feed there ends the effect of the position on the columns. -/
theorem reads_shift {options : Options} {file : Option String} {context : Context}
    {q : Position} {s : List Char} {reading : Reading} (p : Position)
    (reads : Reads options file context q s reading) (front : List Char)
    (reached : q = .after .start front) :
    Reads options file context (p.after front) s (reading.shift p) := by
  induction reads generalizing front with
  | @complete context q lead free leads =>
    subst reached
    have same :
        (((Position.start.after front).after lead).token file .endOfInput [] false).shift p =
          ((p.after front).after lead).token file .endOfInput [] false := by
      rw [← Position.after_append, Position.shift_token, Position.after_append]
    have shifted : Reads options file context (p.after front) lead _ := .complete free leads
    rw [← same] at shifted
    exact shifted
  | @broken context q lead opening value before cause unfinished =>
    subst reached
    have same : (((Position.start.after front).after (lead ++ before)).toSpan file).shift p =
        ((p.after front).after (lead ++ before)).toSpan file := by
      rw [← Position.after_append, Position.shift_toSpan, Position.after_append]
    have shifted : Reads options file context (p.after front) (lead ++ (opening ++ value)) _ :=
      .broken unfinished
    rw [← same] at shifted
    exact shifted
  | @piece context after q piece rest reading lexeme reads ih =>
    subst reached
    have shifted := ih (front ++ piece.chars) (Position.after_append ..).symm
    rw [Position.after_append] at shifted
    have whole := Reads.piece lexeme shifted
    rw [← piece.shift_token, ← piece.shift_warning] at whole
    simpa [Reading.shift, Reading.cons, Option.toList_map] using whole

end Grammar

/-- The pass over a source alone, seen behind a position: how it ends and what it reads. -/
theorem Scan.pass_eq_shift {c : Cursor} (clean : c.pending = []) (opened : c.finished = false) :
    let alone := Scan.pass (.ofSource (String.ofList c.ahead) c.file c.options)
    (Scan.pass c).tokens = alone.tokens.map (·.shift c.position) ∧
      (Scan.pass c).fault = alone.fault.map (·.shift c.position) := by
  intro alone
  obtain ⟨reading, reads, follows⟩ :=
    Scan.exists_follows_pass (String.ofList c.ahead) c.file c.options
  rw [String.toList_ofList] at reads
  have shifted := Scan.follows_pass_of_clean clean opened
    (Grammar.reads_shift c.position reads [] rfl)
  refine ⟨?_, ?_⟩
  · rw [shifted.tokens, follows.tokens]
    rfl
  · rw [shifted.fault, follows.fault, Grammar.Reading.shift]
    cases reading.ending <;> rfl

namespace Session

/-! ## Places to go on from -/

/-- Whatever is delivered to the subscribers, they may fail but leave the scan as it is. -/
structure Aloof (number : Nat) (subscriptions : List Subscription) (holds : Session → Prop) :
    Prop where
  moved : ∀ s change, holds s → holds (s.modifyCursor number change)
  handed : ∀ s token, holds s → ∃ result t,
    Yields (exec · (.deliver token subscriptions)) s result t ∧ holds t ∧
      t.scanners[number]? = s.scanners[number]?

/-- The reading of lines, one after another. A line may be stopped by a listener, but not by a
fault of the source. -/
inductive Lines (number : Nat) : Session → Session → Prop where
  | nil {s : Session} : Lines number s s
  | line {s t u : Session} {result : Except Failure Answer}
      (yields : Yields (exec · (.follow number .line)) s result t)
      (sound : ∀ fault, result ≠ .error (.fault fault)) (rest : Lines number t u) :
      Lines number s u

/-- Work on a scan ends with nothing recorded, unless it ends with a fault. -/
def Clears (number : Nat) (registry : Registry) (holds : Session → Prop)
    (work : Nat → Run Answer) (s : Session) : Prop :=
  ∃ result t c, Yields work s result t ∧ holds t ∧
    t.scanners[number]? = some ⟨c, registry⟩ ∧
    (c.pending = [] ∨ ∃ fault, result = .error (.fault fault))

section Aloof

variable {number : Nat} {registry : Registry} {holds : Session → Prop} {c : Cursor}
  {s t : Session} (aloof : Aloof number registry.subscriptions holds)

/-- A rule that has nothing more to read leaves alone what is recorded. -/
theorem pending_of_done {resume : Scan.Resume} {next : Cursor}
    (step : resume.step c = .done next) : next.pending = c.pending := by
  have char : ∀ (d : Cursor) (char : Char), (d.skipChar char).pending = d.pending := by
    intro d char
    unfold Cursor.skipChar
    split <;> rfl
  have newline : ∀ d : Cursor, d.skipNewline.pending = d.pending := by
    intro d
    rw [Cursor.skipNewline, char, char]
  cases resume with
  | finish => cases step; rfl
  | endLine => cases step; exact newline c
  | closeTag => cases step; exact char c ']'
  | nextSegment =>
    simp only [Scan.Resume.step] at step
    split at step
    · split at step
      · cases step; rfl
      · split at step
        · cases step; exact newline (c.skip 1)
        · exact absurd step (Scan.segment_ne_done _ _)
    · cases step; exact newline c
  | afterText inline =>
    simp only [Scan.Resume.step] at step
    split at step
    · cases step; rfl
    · exact absurd step (Scan.tag_ne_done _ _ _)
    · exact absurd step (Scan.line_ne_done _ _)

include aloof

/-- One move of a scan. A listener that fails finds the token made and nothing recorded. -/
theorem clears_carryOut (held : holds s) (found : s.scanners[number]? = some ⟨c, registry⟩)
    (move : Scan.Move) (ended : ∀ next, move = .done next → next.pending = [])
    (later : ∀ kind inline warning resume next s,
      move = .emit kind inline warning resume next → holds s →
      s.scanners[number]? = some ⟨next.finalize kind, registry⟩ →
      Clears number registry holds (exec · (.resume number resume)) s) :
    Clears number registry holds (fun fuel => carryOut (exec fuel) number move) s := by
  cases move with
  | done next =>
    refine ⟨_, _, next, (yields_modify _ s).bind (yields_pure _ _), aloof.moved s _ held, ?_,
      .inl (ended next rfl)⟩
    exact getElem?_modifyCursor found _
  | fail fault next =>
    refine ⟨_, _, next, (yields_modify _ s).bind (yields_throw _ _), aloof.moved s _ held, ?_,
      .inr ⟨fault, rfl⟩⟩
    exact getElem?_modifyCursor found _
  | emit kind inline warning resume next =>
    have placed := getElem?_modifyCursor found fun _ => next
    have made := getElem?_modifyCursor placed (·.finalize kind)
    obtain ⟨result, middle, handed, still, same⟩ := aloof.handed _ (next.token kind inline)
      (aloof.moved _ (·.finalize kind) (aloof.moved s _ held))
    have kept := same.trans made
    cases result with
    | error failure =>
      refine ⟨.error failure, middle, next.finalize kind, ?_, still, kept, .inl rfl⟩
      exact (yields_modify _ s).bind (yields_finalize_error placed handed).bind_error
    | ok answer =>
      obtain ⟨result, t, d, yields, rest⟩ :=
        later kind inline warning resume next middle rfl still kept
      exact ⟨result, t, d, (yields_modify _ s).bind ((yields_finalize placed handed).bind yields),
        rest⟩

/-- The induction is on the text ahead, of which every further token takes a part. -/
theorem clears_resume (resume : Scan.Resume) (held : holds s)
    (found : s.scanners[number]? = some ⟨c, registry⟩) (clean : c.pending = []) :
    Clears number registry holds (exec · (.resume number resume)) s := by
  induction length : c.ahead.length using Nat.strongRecOn generalizing resume c s with
  | _ n ih =>
    have carried := clears_carryOut aloof held found (resume.step c)
      (fun next step => (pending_of_done step).trans clean)
      (fun kind inline warning resume next s step held found => by
        have shorter := Scan.shortens_step _ _ _ _ _ _ _ step
        exact ih _ (by simpa [length] using shorter) resume held found rfl rfl)
    obtain ⟨result, t, d, yields, rest⟩ := carried
    exact ⟨result, t, d, ((yields_scannerAt found).bind yields).exec, rest⟩

theorem clears_line (held : holds s) (found : s.scanners[number]? = some ⟨c, registry⟩) :
    Clears number registry holds (exec · (.follow number .line)) s := by
  have carried := clears_carryOut aloof held found (Scan.line c)
    (fun next step => absurd step (Scan.line_ne_done _ _))
    (fun kind inline warning resume next s _ held found =>
      clears_resume aloof resume held found rfl)
  obtain ⟨result, t, d, yields, rest⟩ := carried
  exact ⟨result, t, d, ((yields_scannerAt found).bind yields).exec, rest⟩

/-- Reading lines leaves a scan at a place to go on from. -/
theorem Lines.clean (lines : Lines number s t) (held : holds s)
    (found : s.scanners[number]? = some ⟨c, registry⟩) (clean : c.pending = []) :
    ∃ d, t.scanners[number]? = some ⟨d, registry⟩ ∧ d.pending = [] := by
  induction lines generalizing c with
  | nil => exact ⟨c, found, clean⟩
  | line yields sound rest ih =>
    obtain ⟨result, u, d, cleared, still, kept, empty⟩ := clears_line aloof held found
    obtain ⟨rfl, rfl⟩ := cleared.unique yields
    rcases empty with empty | ⟨fault, failed⟩
    · exact ih still kept empty
    · exact absurd failed (sound fault)

end Aloof

/-- From every place with nothing recorded, after any number of lines and also where a listener
stopped the scan, scanning to the end gives the tokens of the text ahead read alone, each shifted
to that place, and fails just where that text does, with its fault shifted likewise. -/
theorem exec_pass_shift {session middle : Session} {number : Nat} {c : Cursor}
    {registry : Registry} {holds quietly : Session → Prop}
    (found : session.scanners[number]? = some ⟨c, registry⟩) (clean : c.pending = [])
    (aloof : Aloof number registry.subscriptions holds) (held : holds session)
    (lines : Lines number session middle)
    (quiet : Undisturbed number registry.subscriptions quietly) (still : quietly middle) :
    ∃ d, middle.scanners[number]? = some ⟨d, registry⟩ ∧ d.pending = [] ∧
      (d.latest ≠ some .endOfInput →
        let alone := Scan.pass (.ofSource (String.ofList d.ahead) d.file d.options)
        ∃ after,
          Yields (exec · (.pass number)) middle
            (match alone.fault with
              | none => .ok {}
              | some fault => .error (.fault (fault.shift d.position))) after ∧
          Delivers number (alone.tokens.map (·.shift d.position)) middle after) := by
  obtain ⟨d, there, empty⟩ := lines.clean aloof held found clean
  refine ⟨d, there, empty, ?_⟩
  intro unread alone
  have opened : d.finished = false := by simpa [Cursor.finished] using unread
  obtain ⟨tokens, fault⟩ := Scan.pass_eq_shift empty opened
  obtain ⟨after, yields, delivers, -⟩ := exists_yields_pass quiet still there
  refine ⟨after, ?_, ?_⟩
  · rw [outcome, fault] at yields
    cases failed : alone.fault with
    | none => simpa [alone, failed] using yields
    | some fault => simpa [alone, failed] using yields
  · rw [tokens] at delivers
    exact delivers

/-- A listener who fails on the second call. -/
def heckler (calls : Nat) : Consumer :=
  .recorder
    { name := "l"
      home := mainCursor
      reactions := [{ call := some 2, step := { command := .raise "stop" } }]
      calls }

/-- A scan with such a listener. -/
def heckled (cursor : Cursor) : Session where
  scanners := #[{ cursor, registry := ⟨[{ ticket := 0, name := "l", consumer := 0 }]⟩ }]
  consumers := #[heckler 0]

/-- The listener is there, and has been called a number of times. -/
def Heckles (least : Nat) (s : Session) : Prop :=
  ∃ calls, least ≤ calls ∧ s.consumers[0]? = some (heckler calls)

theorem yields_heckler {s : Session} {calls : Nat} (there : s.consumers[0]? = some (heckler calls))
    (token : Token) :
    ∃ t, Yields (exec · (.deliver token [{ ticket := 0, name := "l", consumer := 0 }])) s
        (if calls = 1 then .error (.raised "stop") else .ok {}) t ∧
      t.consumers[0]? = some (heckler (calls + 1)) ∧ t.scanners = s.scanners := by
  let t := (s.setConsumer 0 (heckler (calls + 1))).record (.plain "l" token.kind token.value)
  have inside : 0 < s.consumers.size := (Array.getElem?_eq_some_iff.1 there).1
  have called : t.consumers[0]? = some (heckler (calls + 1)) := by
    simp [t, record, setConsumer, inside]
  have hand : ∀ result,
      Yields (exec · (.react mainCursor (calls + 1)
        [{ call := some 2, step := { command := .raise "stop" } }])) t result t →
      Yields (exec · (.hand token { ticket := 0, name := "l", consumer := 0 })) s result t := by
    intro result reacts
    refine Yields.exec ((yields_get s).bind ?_)
    simp only [there]
    exact (yields_modify _ s).bind reacts
  refine ⟨t, Yields.exec ?_, called, rfl⟩
  by_cases second : calls = 1
  · have due : (Option.some (2 : Int)).all (· = ((calls + 1 : Nat) : Int)) = true := by
      simp [second]
    have raised : Yields (exec · (.obey mainCursor (.raise "stop"))) t (.error (.raised "stop"))
        t := (yields_throw _ t).exec
    rw [if_pos second]
    refine (hand _ (Yields.exec ?_)).bind_error
    simp only [perform, due, if_true]
    exact raised.bind_error
  · have other : (Option.some (2 : Int)).all (· = ((calls + 1 : Nat) : Int)) = false := by
      simp
      omega
    have idle : Yields (exec · (.react mainCursor (calls + 1) [])) t (.ok {}) t :=
      (yields_pure _ t).exec
    rw [if_neg second]
    refine (hand (.ok {}) (Yields.exec ?_)).bind (yields_pure _ t).exec
    simp only [perform, other, Bool.false_eq_true, if_false]
    exact idle

theorem aloof_heckler :
    Aloof 0 [{ ticket := 0, name := "l", consumer := 0 }] (Heckles 0) where
  moved := fun _ _ heckles => heckles
  handed := by
    rintro s token ⟨calls, -, there⟩
    obtain ⟨t, yields, after, same⟩ := yields_heckler there token
    exact ⟨_, t, yields, ⟨calls + 1, by omega, after⟩, by rw [same]⟩

theorem undisturbed_heckler :
    Undisturbed 0 [{ ticket := 0, name := "l", consumer := 0 }] (Heckles 2) where
  moved := fun _ _ heckles => heckles
  handed := by
    rintro s token ⟨calls, twice, there⟩
    obtain ⟨t, yields, after, same⟩ := yields_heckler there token
    rw [if_neg (by omega)] at yields
    exact ⟨{}, t, yields, ⟨calls + 1, by omega, after⟩, by rw [same]⟩

/-- Where the listener stops the scan of the source below: inside a line, behind the tag `b`. -/
def stoppedAt : Cursor :=
  { behind := ['b', '[', 'a', '\n'], ahead := "]\nc*p\n@q".toList, position := ⟨4, 2, 4⟩,
    mark := ⟨3, 2, 3⟩, latest := some .tag, count := 2 }

/-- The first line is prose and a tag, and the second call comes with the tag. -/
theorem yields_heckled_line :
    ∃ middle, Yields (exec · (.follow 0 .line)) (heckled (.ofSource "\na[b]\nc*p\n@q" none {}))
        (.error (.raised "stop")) middle ∧
      middle.scanners[0]? = some ⟨stoppedAt, ⟨[{ ticket := 0, name := "l", consumer := 0 }]⟩⟩ ∧
      Heckles 2 middle := by
  let c : Cursor := .ofSource "\na[b]\nc*p\n@q" none {}
  let prose : Cursor :=
    { behind := ['a', '\n'], ahead := "[b]\nc*p\n@q".toList, position := ⟨2, 2, 2⟩,
      pending := ['\n', 'a'] }
  let tag : Cursor :=
    { stoppedAt with pending := ['b'], latest := some .text, count := 1 }
  have line : Scan.line c = .emit .text false none (.afterText true) prose := by cbv
  have step : (Scan.Resume.afterText true).step (prose.finalize .text) =
      .emit .tag true none .closeTag tag := by cbv
  have found : (heckled c).scanners[0]? = some ⟨c, _⟩ := rfl
  have placed := getElem?_modifyCursor found fun _ => prose
  obtain ⟨s, first, once, same⟩ := yields_heckler
    (s := ((heckled c).modifyCursor 0 fun _ => prose).modifyCursor 0 (·.finalize .text)) rfl
    (prose.token .text false)
  have made := getElem?_modifyCursor placed (·.finalize .text)
  rw [← same] at made
  have reached := getElem?_modifyCursor made fun _ => tag
  obtain ⟨middle, second, twice, last⟩ := yields_heckler
    (s := (s.modifyCursor 0 fun _ => tag).modifyCursor 0 (·.finalize .tag)) once
    (tag.token .tag true)
  refine ⟨middle, ?_, ?_, 2, by omega, twice⟩
  · refine ((yields_scannerAt found).bind ?_).exec
    simp only [Scan.Rule.start, line]
    refine (yields_modify _ _).bind ((yields_finalize placed first).bind ?_)
    refine ((yields_scannerAt made).bind ?_).exec
    simp only [step]
    exact (yields_modify _ _).bind (yields_finalize_error reached second).bind_error
  · rw [last]
    exact getElem?_modifyCursor reached (·.finalize .tag)

/-- The listener stops the scan inside a line, and the rest is read as if alone. -/
theorem exec_pass_shift_heckled :
    ∃ middle after,
      Yields (exec · (.follow 0 .line)) (heckled (.ofSource "\na[b]\nc*p\n@q" none {}))
        (.error (.raised "stop")) middle ∧
      Yields (exec · (.pass 0)) middle
        (.error (.fault ⟨.openDirective, { line := 4, column := 1, offset := 10, stop := 10 }⟩))
        after ∧
      Delivers 0
        [{ kind := .text, value := "]\nc", line := 2, column := 4, start := 4, stop := 7 },
         { kind := .label, value := "p", line := 3, column := 3, start := 8, stop := 9 }]
        middle after := by
  obtain ⟨middle, stopped, kept, twice⟩ := yields_heckled_line
  have found : (heckled (.ofSource "\na[b]\nc*p\n@q" none {})).scanners[0]? = some _ := rfl
  obtain ⟨d, there, -, shifted⟩ := exec_pass_shift found rfl aloof_heckler ⟨0, by omega, rfl⟩
    (.line stopped (by simp) .nil) undisturbed_heckler twice
  obtain rfl : d = stoppedAt := by simpa [there] using kept
  obtain ⟨after, yields, delivers⟩ := shifted (by simp [stoppedAt])
  refine ⟨middle, after, stopped, ?_, ?_⟩
  · have fault : (Scan.pass (.ofSource "]\nc*p\n@q" none {})).fault = some
        ⟨.openDirective, { line := 3, column := 1, offset := 6, stop := 6 }⟩ := by cbv
    simpa [fault, stoppedAt, Fault.shift, Span.shift, Position.shiftLine, Position.shiftColumn]
      using yields
  · have tokens : (Scan.pass (.ofSource "]\nc*p\n@q" none {})).tokens =
        [{ kind := .text, value := "]\nc", stop := 3 },
         { kind := .label, value := "p", line := 2, column := 3, start := 4, stop := 5 }] := by cbv
    simpa [tokens, stoppedAt, Token.shift, Position.shiftLine, Position.shiftColumn] using delivers

end Session

end Scenario
