import Scenario.Cursor
import Scenario.Fault

/-! # Rules of the scan

The next character decides which rule reads on: `@` a directive up to the end of its line, `*` a
label of segments divided by `|`, `[` a tag up to `]`, and anything else prose. `[[` is prose.

Whoever follows a scan sees each token at the moment it is read, before the delimiter after it is
passed, and may move the cursor at that moment. So a rule is given in pieces: `Rule.start` reads up
to its first token, and a `Resume` says how to go on from there with the cursor as it is then found.

The main facts here are that a rule makes progress: every further token of a rule, and every first
token of a line other than the end of the input, takes characters (`shortens_step`,
`shortens_line`).
-/

namespace Scenario.Scan

/-- What a scan can be told to read. -/
inductive Rule where
  /-- Whatever the next character calls for. -/
  | line
  | directive
  | label
  /-- A tag; `inline` if it belongs to prose right before it. -/
  | tag (inline : Bool)
  | text
  deriving DecidableEq

/-- What is left of a rule once a token has been read. -/
inductive Resume where
  /-- Nothing. -/
  | finish
  /-- Pass the end of the line. -/
  | endLine
  /-- Go on with the next segment of a label, if there is one. -/
  | nextSegment
  /-- Pass the bracket that closes a tag. -/
  | closeTag
  /-- Go on with what ended a stretch of prose; a tag there is `inline` or not. -/
  | afterText (inline : Bool)
  deriving DecidableEq

/-- How far a rule gets in one go. -/
inductive Move where
  /-- The characters of a token are recorded, perhaps with a warning about the place of an open
  tag. -/
  | emit (kind : Kind) (inline : Bool) (warning : Option Span) (resume : Resume)
      (cursor : Cursor)
  /-- The rule is at its end. -/
  | done (cursor : Cursor)
  /-- The rule cannot be finished. -/
  | fail (fault : Fault) (cursor : Cursor)

/-- A directive: the rest of a line after its first character (`parse_directive`). -/
def directive (c : Cursor) : Move :=
  let next := (c.skip 1).recordUntil Delimiter.isNewline
  if next.atEnd then .fail ⟨.openDirective, c.place⟩ next
  else .emit .tag false none .endLine next

/-- A segment of a label: up to a bar or the end of the line (one round of `parse_label`). -/
def segment (c : Cursor) : Move :=
  let next := c.recordUntil Delimiter.endsSegment
  if next.atEnd then .fail ⟨.openLabel, c.place⟩ next
  else .emit .label false none .nextSegment next

/-- A label: its first character is passed, and a segment follows (`parse_label`). -/
def label (c : Cursor) : Move :=
  let next := c.skip 1
  if next.atEnd then .fail ⟨.namelessLabel, c.place⟩ next
  else segment next

/-- A tag: its first character is passed, and it runs to a closing bracket (`parse_inline_tag`).
Without one it is refused, or read to the end of the input with a warning, as the options say. -/
def tag (inline : Bool) (c : Cursor) : Move :=
  let next := (c.skip 1).recordUntil (· == ']')
  if !next.atEnd then .emit .tag inline none .closeTag next
  else if next.options.strictTags then .fail ⟨.openTag, c.place⟩ next
  else .emit .tag inline (some c.place) .closeTag next

/-- The length of the prose at the start of a text (the loop of `parse_text`). Two opening brackets
in a row are prose. -/
def proseLength : List Char → Nat
  | [] => 0
  | '[' :: '[' :: rest => proseLength rest + 2
  | c :: rest => if Delimiter.opensMarkup c then 0 else proseLength rest + 1

/-- Prose: up to the next character that opens markup (`parse_text`). A tag right after it is inline
unless the prose ends a line. -/
def text (c : Cursor) : Move :=
  let next := c.record (proseLength c.ahead)
  .emit .text false none (.afterText !(next.pending.getLast?.any Delimiter.isNewline)) next

/-- The rule that the next character calls for, or the end of the input. -/
def route (c : Cursor) : Move :=
  match c.ahead with
  | [] => .emit .endOfInput false none .finish c
  | '@' :: _ => directive c
  | '*' :: _ => label c
  | '[' :: '[' :: _ => text c
  | '[' :: _ => tag false c
  | _ => text c

/-- Read on at the cursor, or after the blank characters there if the options say so
(`dispatch_line`). -/
def line (c : Cursor) : Move :=
  route (if c.options.skipBlanks then c.skipBlanks else c)

/-- Begin a rule at the cursor. -/
def Rule.start : Rule → Cursor → Move
  | .line => Scan.line
  | .directive => Scan.directive
  | .label => Scan.label
  | .tag inline => Scan.tag inline
  | .text => Scan.text

/-- Go on with a rule at the cursor: what the `parse_*` functions do after a token. -/
def Resume.step : Resume → Cursor → Move
  | .finish, c => .done c
  | .endLine, c => .done c.skipNewline
  | .nextSegment, c =>
      match c.ahead with
      | '|' :: rest =>
          let next := c.skip 1
          if rest.isEmpty then .done next
          else if rest.head?.any Delimiter.isNewline then .done next.skipNewline
          else segment next
      | _ => .done c.skipNewline
  | .closeTag, c => .done (c.skipChar ']')
  | .afterText inline, c =>
      match c.ahead with
      | [] => .done c
      | '[' :: _ => tag inline c
      | _ => line c

/-! ## Progress -/

/-- Every token of the move leaves fewer than `n` characters. -/
def Move.Shortens (n : Nat) (move : Move) : Prop :=
  ∀ kind inline warning resume c,
    move = .emit kind inline warning resume c → c.ahead.length < n

theorem Move.Shortens.mono {n m : Nat} {move : Move} (h : move.Shortens n) (le : n ≤ m) :
    move.Shortens m :=
  fun _ _ _ _ _ same => Nat.lt_of_lt_of_le (h _ _ _ _ _ same) le

private theorem length_dropWhile_le (p : Char → Bool) (cs : List Char) :
    (cs.dropWhile p).length ≤ cs.length := (List.dropWhile_sublist p).length_le

private theorem shortens_emit {n : Nat} {kind : Kind} {inline : Bool} {warning : Option Span}
    {resume : Resume} {c : Cursor} (h : c.ahead.length < n) :
    (Move.emit kind inline warning resume c).Shortens n := by
  rintro _ _ _ _ _ ⟨⟩
  exact h

private theorem shortens_fail {n : Nat} {fault : Fault} {c : Cursor} :
    (Move.fail fault c).Shortens n := by
  rintro _ _ _ _ _ ⟨⟩

private theorem shortens_done {n : Nat} {c : Cursor} : (Move.done c).Shortens n := by
  rintro _ _ _ _ _ ⟨⟩

theorem shortens_segment {c : Cursor} {n : Nat} (h : c.ahead.length < n) :
    (segment c).Shortens n := by
  have shorter := length_dropWhile_le (fun char => !Delimiter.endsSegment char) c.ahead
  simp only [segment]
  split
  · exact shortens_fail
  · apply shortens_emit
    simp only [Cursor.ahead_recordUntil]
    omega

theorem shortens_directive {c : Cursor} (h : c.ahead ≠ []) :
    (directive c).Shortens c.ahead.length := by
  have positive := List.length_pos_iff.2 h
  have shorter := length_dropWhile_le (fun char => !Delimiter.isNewline char) (c.ahead.drop 1)
  simp only [directive]
  split
  · exact shortens_fail
  · apply shortens_emit
    simp only [Cursor.ahead_recordUntil, Cursor.ahead_skip, List.length_drop] at shorter ⊢
    omega

theorem shortens_label {c : Cursor} (h : c.ahead ≠ []) :
    (label c).Shortens c.ahead.length := by
  have positive := List.length_pos_iff.2 h
  simp only [label]
  split
  · exact shortens_fail
  · apply shortens_segment
    simp only [Cursor.ahead_skip, List.length_drop]
    omega

theorem shortens_tag {c : Cursor} (inline : Bool) (h : c.ahead ≠ []) :
    (tag inline c).Shortens c.ahead.length := by
  have positive := List.length_pos_iff.2 h
  have shorter := length_dropWhile_le (fun char => !(char == ']')) (c.ahead.drop 1)
  simp only [List.length_drop] at shorter
  simp only [tag]
  split
  · apply shortens_emit
    simp only [Cursor.ahead_recordUntil, Cursor.ahead_skip]
    omega
  · split
    · exact shortens_fail
    · apply shortens_emit
      simp only [Cursor.ahead_recordUntil, Cursor.ahead_skip]
      omega

theorem shortens_text {c : Cursor} (h : c.ahead ≠ []) (prose : proseLength c.ahead ≠ 0) :
    (text c).Shortens c.ahead.length := by
  have positive := List.length_pos_iff.2 h
  apply shortens_emit
  simp only [Cursor.ahead_record, List.length_drop]
  omega

theorem shortens_route {c : Cursor} (h : c.ahead ≠ []) : (route c).Shortens c.ahead.length := by
  rw [route]
  split
  · contradiction
  · exact shortens_directive h
  · exact shortens_label h
  · next e => exact shortens_text h (by rw [e]; simp [proseLength])
  · exact shortens_tag false h
  · next notDirective notLabel _ notTag =>
    apply shortens_text h
    cases e : c.ahead with
    | nil => contradiction
    | cons char rest =>
        have directive : char ≠ '@' := fun same => notDirective rest (same ▸ e)
        have label : char ≠ '*' := fun same => notLabel rest (same ▸ e)
        have tag : char ≠ '[' := fun same => notTag rest (same ▸ e)
        rw [proseLength]
        · simp [Delimiter.opensMarkup, directive, label, tag]
        · exact fun tail same => absurd same tag

theorem route_of_nil {c : Cursor} (h : c.ahead = []) :
    route c = .emit .endOfInput false none .finish c := by
  simp [route, h]

/-- The token that opens a line takes characters, unless the input ended before it. -/
theorem shortens_line {c : Cursor} (h : c.ahead ≠ []) : (line c).Shortens c.ahead.length := by
  have shorter := c.length_skipBlanks_le
  rw [line]
  split
  · by_cases rest : c.skipBlanks.ahead = []
    · rw [route_of_nil rest]
      apply shortens_emit
      simpa [rest] using List.length_pos_iff.2 h
    · exact (shortens_route rest).mono shorter
  · exact shortens_route h

/-- At the end of the input a line is the token for it. -/
theorem line_of_nil {c : Cursor} (h : c.ahead = []) :
    ∃ next, next.ahead = [] ∧ line c = .emit .endOfInput false none .finish next := by
  rw [line]
  split
  · have rest : c.skipBlanks.ahead = [] := by simp [Cursor.skipBlanks, h]
    exact ⟨c.skipBlanks, rest, route_of_nil rest⟩
  · exact ⟨c, h, route_of_nil h⟩

/-- Every further token of a rule takes characters. -/
theorem shortens_step (resume : Resume) (c : Cursor) :
    (resume.step c).Shortens c.ahead.length := by
  cases resume with
  | finish => exact shortens_done
  | endLine => exact shortens_done
  | closeTag => exact shortens_done
  | nextSegment =>
      simp only [Resume.step]
      split
      · next rest e =>
        split
        · exact shortens_done
        · split
          · exact shortens_done
          · apply shortens_segment
            simp [e]
      · exact shortens_done
  | afterText inline =>
      simp only [Resume.step]
      split
      · exact shortens_done
      · next e => exact shortens_tag inline (by simp [e])
      · next notEnd _ => exact shortens_line notEnd

/-! ## A rule that begins reads a token or fails -/

theorem segment_ne_done (c next : Cursor) : segment c ≠ .done next := by
  simp only [segment]
  split <;> simp

theorem directive_ne_done (c next : Cursor) : directive c ≠ .done next := by
  simp only [directive]
  split <;> simp

theorem label_ne_done (c next : Cursor) : label c ≠ .done next := by
  simp only [label]
  split
  · simp
  · exact segment_ne_done _ _

theorem tag_ne_done (inline : Bool) (c next : Cursor) : tag inline c ≠ .done next := by
  simp only [tag]
  split
  · simp
  · split <;> simp

theorem text_ne_done (c next : Cursor) : text c ≠ .done next := by
  simp [text]

theorem line_ne_done (c next : Cursor) : line c ≠ .done next := by
  rw [line, route]
  split
  · simp
  · exact directive_ne_done _ _
  · exact label_ne_done _ _
  · exact text_ne_done _ _
  · exact tag_ne_done _ _ _
  · exact text_ne_done _ _

/-- A rule that comes to its end has read no token since, and has not moved back. -/
theorem step_done {resume : Resume} {c next : Cursor} (h : resume.step c = .done next) :
    next.latest = c.latest ∧ next.ahead.length ≤ c.ahead.length := by
  cases resume with
  | finish => cases h; exact ⟨rfl, Nat.le_refl _⟩
  | endLine => cases h; exact ⟨c.latest_skipNewline, c.length_skipNewline_le⟩
  | closeTag => cases h; exact ⟨c.latest_skipChar ']', c.length_skipChar_le ']'⟩
  | nextSegment =>
      simp only [Resume.step] at h
      split at h
      · split at h
        · cases h; simp
        · split at h
          · cases h
            have := (c.skip 1).length_skipNewline_le
            simp only [Cursor.ahead_skip, List.length_drop] at this
            exact ⟨by simp, by omega⟩
          · exact absurd h (segment_ne_done _ _)
      · cases h; exact ⟨c.latest_skipNewline, c.length_skipNewline_le⟩
  | afterText inline =>
      simp only [Resume.step] at h
      split at h
      · cases h; exact ⟨rfl, Nat.le_refl _⟩
      · exact absurd h (tag_ne_done _ _ _)
      · exact absurd h (line_ne_done _ _)

end Scenario.Scan
