import Mathlib.Data.List.DropRight
import Scenario.Proofs.Cursor

/-! # The course of a cursor

A cursor can be made to record characters, to pass them, and to give a token of what it recorded,
in any order and at any place. A `Course` is everything that was done to a cursor since it was put
at the start of a source. Its `acts` say the same one character at a time, and do not depend on
how the cursor keeps count of anything.

The main result is that a cursor agrees with its course, and so does every token made at it
(`Course.sound`). What carries it is `Tracks`, which each operation keeps up: it says where the
token that is being recorded starts, by the acts since the last token.
-/

namespace Scenario

/-! ## Lines and columns of a text -/

/-- The index of the last line feed of a text. -/
def lastFeed : List Char → Option Nat
  | [] => none
  | char :: rest =>
      match lastFeed rest with
      | some i => some (i + 1)
      | none => if char = '\n' then some 0 else none

namespace Position

/-- The position in a text with `n` characters before it, from the line feeds among these. -/
def ofOffset (text : List Char) (n : Nat) : Position where
  offset := n
  line := 1 + (text.take n).count '\n'
  column :=
    match lastFeed (text.take n) with
    | some i => n - i
    | none => n + 1

theorem column_after (p : Position) (run : List Char) :
    (p.after run).column =
      match lastFeed run with
      | some i => run.length - i
      | none => p.column + run.length := by
  induction run generalizing p with
  | nil => rfl
  | cons char run ih =>
    rw [after_cons, ih, lastFeed]
    cases lastFeed run with
    | some i => simp
    | none =>
      by_cases feed : char = '\n'
      · simp [next, feed, Nat.add_comm]
      · simp [next, feed, Nat.add_comm, Nat.add_left_comm]

/-- Counting along a text comes to the same as looking back over it. -/
theorem start_after (front rest : List Char) :
    start.after front = ofOffset (front ++ rest) front.length := by
  have column := column_after start front
  have whole : (front ++ rest).take front.length = front := List.take_left
  rw [ofOffset, whole]
  change Position.mk (0 + front.length) _ (start.after front).column = _
  rw [column, Nat.zero_add]
  cases lastFeed front with
  | none => simp [start, Nat.add_comm]
  | some i => simp [start]

end Position

/-! ## Operations and acts -/

/-- What can be done to a cursor. -/
inductive Operation where
  | advance
  | skipOne
  | recordUntil (stop : Char → Bool)
  | skipBlanks
  | skipNewline
  | finalize (kind : Kind) (inline : Bool)

/-- What comes of an operation, one thing at a time. -/
inductive Act where
  | recorded (char : Char)
  | passed (char : Char)
  | made (token : Token)

namespace Act

def isMade : Act → Bool
  | .made _ => true
  | _ => false

def isPassed : Act → Bool
  | .passed _ => true
  | _ => false

/-- The character that the cursor moved over. -/
def char? : Act → Option Char
  | .recorded char => some char
  | .passed char => some char
  | .made _ => none

def recorded? : Act → Option Char
  | .recorded char => some char
  | _ => none

/-- The characters that the cursor moved over. -/
def chars (acts : List Act) : List Char := acts.filterMap char?

/-- The characters that were recorded. -/
def value (acts : List Act) : List Char := acts.filterMap recorded?

/-- The acts that moved the cursor, one for each character. -/
def moves (acts : List Act) : List Act := acts.filter fun act => !act.isMade

/-- The acts since the last token. -/
def since (acts : List Act) : List Act := acts.rtakeWhile fun act => !act.isMade

end Act

namespace Operation

/-- The length of one end of line at the start of a text. -/
def newlineLength : List Char → Nat
  | '\r' :: '\n' :: _ => 2
  | '\r' :: _ => 1
  | '\n' :: _ => 1
  | _ => 0

/-- The cursor after an operation. -/
def apply : Operation → Cursor → Cursor
  | .advance, c => c.advance
  | .skipOne, c => c.skip 1
  | .recordUntil stop, c => c.recordUntil stop
  | .skipBlanks, c => c.skipBlanks
  | .skipNewline, c => c.skipNewline
  | .finalize kind _, c => c.finalize kind

/-- What comes of an operation, from what is ahead of the cursor. -/
def acts : Operation → Cursor → List Act
  | .advance, c => (c.ahead.take 1).map .recorded
  | .skipOne, c => (c.ahead.take 1).map .passed
  | .recordUntil stop, c => (c.ahead.takeWhile fun char => !stop char).map .recorded
  | .skipBlanks, c => (c.ahead.takeWhile Delimiter.isBlank).map .passed
  | .skipNewline, c => (c.ahead.take (newlineLength c.ahead)).map .passed
  | .finalize kind inline, c => [.made (c.token kind inline)]

/-- The cursor after operations. -/
def replay (operations : List Operation) (c : Cursor) : Cursor :=
  operations.foldl (fun c operation => operation.apply c) c

/-- What comes of operations. -/
def actsOf : List Operation → Cursor → List Act
  | [], _ => []
  | operation :: rest, c => operation.acts c ++ actsOf rest (operation.apply c)

end Operation

/-! ## What the acts of an operation are -/

private theorem take_length_takeWhile (p : Char → Bool) (cs : List Char) :
    cs.take (cs.takeWhile p).length = cs.takeWhile p :=
  (List.prefix_iff_eq_take.1 (List.takeWhile_prefix p)).symm

theorem Cursor.advance_eq_record (c : Cursor) : c.advance = c.record 1 := by
  unfold advance record
  cases c.ahead with
  | nil => rfl
  | cons char rest => simp [Position.after_cons]

private theorem head?_ne {cs : List Char} {char : Char} (other : ∀ rest, cs ≠ char :: rest) :
    cs.head? ≠ some char := by
  intro first
  obtain ⟨rest, split⟩ := List.head?_eq_some_iff.1 first
  exact other rest split

theorem Cursor.skipNewline_eq_skip (c : Cursor) :
    c.skipNewline = c.skip (Operation.newlineLength c.ahead) := by
  unfold Operation.newlineLength
  split
  · next ahead => simp [skipNewline, skipChar, ahead, skip_skip]
  · next rest notFeed ahead =>
    have plain : (c.skip 1).ahead.head? ≠ some '\n' := by
      rw [ahead_skip, ahead]
      exact head?_ne notFeed
    rw [skipNewline, skipChar_eq_skip ahead, skipChar_eq_self plain]
  · next ahead => simp [skipNewline, skipChar, ahead]
  · next notReturn notFeed =>
    rw [skipNewline, skipChar_eq_self (head?_ne notReturn), skipChar_eq_self (head?_ne notFeed),
      skip_zero]

/-- What was done to a cursor since it was put at the start of a source. -/
structure Course where
  source : String
  file : Option String := none
  options : Options := {}
  operations : List Operation := []

namespace Course

/-- Where the course has led. -/
def cursor (course : Course) : Cursor :=
  Operation.replay course.operations (.ofSource course.source course.file course.options)

def acts (course : Course) : List Act :=
  Operation.actsOf course.operations (.ofSource course.source course.file course.options)

end Course

/-! ## What a cursor keeps track of -/

namespace Act

@[simp] theorem chars_append (first later : List Act) :
    chars (first ++ later) = chars first ++ chars later := List.filterMap_append

@[simp] theorem value_append (first later : List Act) :
    value (first ++ later) = value first ++ value later := List.filterMap_append

@[simp] theorem moves_append (first later : List Act) :
    moves (first ++ later) = moves first ++ moves later := List.filter_append ..

@[simp] theorem chars_map_recorded (run : List Char) : chars (run.map .recorded) = run := by
  simp [chars, Function.comp_def, char?]

@[simp] theorem chars_map_passed (run : List Char) : chars (run.map .passed) = run := by
  simp [chars, Function.comp_def, char?]

@[simp] theorem value_map_recorded (run : List Char) : value (run.map .recorded) = run := by
  simp [value, Function.comp_def, recorded?]

@[simp] theorem value_map_passed (run : List Char) : value (run.map .passed) = [] := by
  simp [value, Function.comp_def, recorded?]

theorem plain_recorded (run : List Char) : ∀ act ∈ run.map Act.recorded, act.isMade = false := by
  simp [isMade]

theorem plain_passed (run : List Char) : ∀ act ∈ run.map Act.passed, act.isMade = false := by
  simp [isMade]

/-- Acts that make no token add to those since the last one. -/
theorem since_append {acts run : List Act} (plain : ∀ act ∈ run, act.isMade = false) :
    since (acts ++ run) = since acts ++ run := by
  have all : ∀ act ∈ run.reverse, (!act.isMade) = true := by
    intro act member
    simp [plain act (List.mem_reverse.1 member)]
  rw [since, since, List.rtakeWhile, List.reverse_append, List.takeWhile_append_of_pos all]
  simp [List.rtakeWhile]

@[simp] theorem since_made (acts : List Act) (token : Token) : since (acts ++ [.made token]) = [] :=
  List.rtakeWhile_concat_neg _ _ _ (by simp [isMade])

/-- The acts since the first character was recorded that belongs to no token yet. -/
def span (acts : List Act) : List Act := (since acts).dropWhile isPassed

/-- Passing characters leaves the value alone. -/
theorem value_dropWhile_isPassed (acts : List Act) :
    value (acts.dropWhile isPassed) = value acts := by
  induction acts with
  | nil => rfl
  | cons act acts ih =>
    cases act with
    | passed char => exact ih
    | recorded char => rfl
    | made token => rfl

theorem value_sublist_chars (acts : List Act) : (value acts).Sublist (chars acts) := by
  induction acts with
  | nil => exact .slnil
  | cons act acts ih =>
    cases act with
    | recorded char => exact ih.cons_cons char
    | passed char => exact ih.cons char
    | made token => exact ih

theorem value_eq_chars {acts : List Act} (kept : ∀ act ∈ acts, act.isPassed = false) :
    value acts = chars acts := by
  induction acts with
  | nil => rfl
  | cons act acts ih =>
    obtain ⟨first, rest⟩ := List.forall_mem_cons.1 kept
    cases act with
    | recorded char => exact congrArg (char :: ·) (ih rest)
    | passed char => cases first
    | made token => exact ih rest

theorem isMade_of_mem_since {acts : List Act} {act : Act} (member : act ∈ since acts) :
    act.isMade = false := by
  simpa using List.mem_rtakeWhile_imp member

/-- A token that is made now would start here just if nothing was recorded since the last one. -/
theorem span_eq_nil_iff (acts : List Act) : span acts = [] ↔ value (since acts) = [] := by
  rw [span, List.dropWhile_eq_nil_iff, value, List.filterMap_eq_nil_iff]
  refine forall_congr' fun act => forall_congr' fun member => ?_
  cases act with
  | made token => cases isMade_of_mem_since member
  | _ => simp [isPassed, recorded?]

theorem length_chars (acts : List Act) : (chars acts).length = (moves acts).length := by
  induction acts with
  | nil => rfl
  | cons act acts ih =>
    cases act with
    | made token => exact ih
    | _ => exact congrArg (· + 1) ih

theorem moves_since (acts : List Act) : moves (since acts) = since acts := by
  rw [moves, List.filter_eq_self]
  intro act member
  simp [isMade_of_mem_since member]

theorem exists_moves_eq (acts : List Act) : ∃ front, moves acts = front ++ span acts := by
  refine ⟨moves (acts.rdropWhile fun act => !act.isMade) ++ (since acts).takeWhile isPassed, ?_⟩
  calc moves acts
      = moves (acts.rdropWhile (fun act => !act.isMade) ++ since acts) := by
        rw [since, List.rdropWhile_append_rtakeWhile]
    _ = moves (acts.rdropWhile fun act => !act.isMade) ++ since acts := by
        rw [moves_append, moves_since]
    _ = _ := by rw [List.append_assoc, span, List.takeWhile_append_dropWhile]

/-- If a token that is made now starts behind some characters, then the moves after these are those
since its first character was recorded. -/
theorem drop_moves {acts : List Act} {front : List Char}
    (split : chars acts = front ++ chars (span acts)) :
    (moves acts).drop front.length = span acts := by
  obtain ⟨earlier, same⟩ := exists_moves_eq acts
  have plain : moves (span acts) = span acts := by
    have inside := moves_since acts
    rw [moves, List.filter_eq_self] at inside ⊢
    exact fun act member => inside act ((List.dropWhile_sublist _).mem member)
  have lengths := congrArg List.length split
  rw [length_chars, same, List.length_append, List.length_append, length_chars, plain] at lengths
  have length : front.length = earlier.length := by omega
  rw [same, length, List.drop_left]

theorem span_append_recorded (acts : List Act) (run : List Char) :
    span (acts ++ run.map .recorded) = span acts ++ run.map .recorded := by
  have kept : (run.map Act.recorded).dropWhile isPassed = run.map .recorded := by
    cases run <;> rfl
  rw [span, since_append (plain_recorded run), List.dropWhile_append, kept]
  split
  · next empty => rw [span, List.isEmpty_iff.1 empty, List.nil_append]
  · rfl

theorem since_append_passed (acts : List Act) (run : List Char) :
    since (acts ++ run.map .passed) = since acts ++ run.map .passed :=
  since_append (plain_passed run)

theorem span_append_passed {acts : List Act} (opened : span acts ≠ []) (run : List Char) :
    span (acts ++ run.map .passed) = span acts ++ run.map .passed := by
  rw [span, since_append_passed, List.dropWhile_append, if_neg (by simpa [span] using opened)]
  rfl

end Act

/-- How a cursor keeps track of what happened to it. -/
structure Tracks (text : List Char) (acts : List Act) (c : Cursor) : Prop where
  text : c.behind.reverse ++ c.ahead = text
  chars : Act.chars acts = c.behind.reverse
  position : c.position = Position.start.after c.behind.reverse
  pending : c.pending = Act.value (Act.since acts)
  /-- Where a token starts that is made now. -/
  origin : ∃ front, c.behind.reverse = front ++ Act.chars (Act.span acts) ∧
    c.origin = Position.start.after front
  count : c.count = acts.countP Act.isMade

namespace Tracks

variable {text : List Char} {acts : List Act} {c : Cursor}

theorem ofSource (source : String) (file : Option String) (options : Options) :
    Tracks source.toList [] (.ofSource source file options) where
  text := rfl
  chars := rfl
  position := rfl
  pending := rfl
  origin := ⟨[], rfl, rfl⟩
  count := rfl

theorem record (tracks : Tracks text acts c) {n : Nat} {run : List Char}
    (taken : c.ahead.take n = run) :
    Tracks text (acts ++ run.map .recorded) (c.record n) where
  text := by
    rw [Cursor.behind_record, Cursor.ahead_record, ← tracks.text]
    simp
  chars := by simp [Cursor.behind_record, tracks.chars, taken]
  position := by
    simp [Cursor.behind_record, Cursor.position_record, tracks.position, Position.after_append]
  pending := by
    rw [Act.since_append (Act.plain_recorded run), Cursor.pending_record, tracks.pending, taken]
    simp
  origin := by
    obtain ⟨front, split, starts⟩ := tracks.origin
    refine ⟨front, ?_, by rw [Cursor.origin_record, starts]⟩
    rw [Cursor.behind_record, Act.span_append_recorded, taken]
    simp [split]
  count := by simp [tracks.count, Function.comp_def, Act.isMade]

/-- Passing characters moves the start of a token along, as long as nothing is recorded for it. -/
theorem skip (tracks : Tracks text acts c) {n : Nat} {run : List Char}
    (taken : c.ahead.take n = run) :
    Tracks text (acts ++ run.map .passed) (c.skip n) where
  text := by
    rw [← tracks.text]
    simp [Cursor.skip]
  chars := by simp [Cursor.skip, tracks.chars, taken]
  position := by
    rw [Cursor.position_skip, tracks.position, ← Position.after_append]
    simp [Cursor.skip]
  pending := by
    rw [Act.since_append_passed]
    simpa [Cursor.skip] using tracks.pending
  origin := by
    have behind : (c.skip n).behind.reverse = c.behind.reverse ++ run := by
      simp [Cursor.skip, taken]
    by_cases empty : c.pending = []
    · have nothing : Act.span (acts ++ run.map .passed) = [] := by
        rw [Act.span_eq_nil_iff, Act.since_append_passed, Act.value_append, ← tracks.pending, empty]
        simp
      have here : (c.skip n).origin = (c.skip n).position := by
        simp [Cursor.origin, Cursor.skip, empty]
      refine ⟨c.behind.reverse ++ run, ?_, ?_⟩
      · rw [behind, nothing]
        exact (List.append_nil _).symm
      · rw [here, Cursor.position_skip, tracks.position, ← Position.after_append, taken]
    · have opened : Act.span acts ≠ [] := by
        rwa [Ne, Act.span_eq_nil_iff, ← tracks.pending]
      have there : (c.skip n).origin = c.origin := by
        simp [Cursor.origin, Cursor.skip, empty]
      obtain ⟨front, split, starts⟩ := tracks.origin
      refine ⟨front, ?_, there.trans starts⟩
      rw [behind, Act.span_append_passed opened, split]
      simp
  count := by simp [Cursor.skip, tracks.count, Function.comp_def, Act.isMade]

theorem finalize (tracks : Tracks text acts c) (kind : Kind) (inline : Bool) :
    Tracks text (acts ++ [.made (c.token kind inline)]) (c.finalize kind) where
  text := tracks.text
  chars := by
    rw [Act.chars_append, tracks.chars]
    exact List.append_nil _
  position := tracks.position
  pending := by rw [Act.since_made]; rfl
  origin := by
    refine ⟨c.behind.reverse, ?_, tracks.position⟩
    simp [Act.span, Act.chars, Cursor.finalize]
  count := by simp [Cursor.finalize, tracks.count, Act.isMade]

theorem apply (tracks : Tracks text acts c) (operation : Operation) :
    Tracks text (acts ++ operation.acts c) (operation.apply c) := by
  cases operation with
  | advance =>
    rw [Operation.apply, Cursor.advance_eq_record]
    exact tracks.record rfl
  | skipOne => exact tracks.skip rfl
  | recordUntil stop => exact tracks.record (take_length_takeWhile ..)
  | skipBlanks => exact tracks.skip (take_length_takeWhile ..)
  | skipNewline =>
    rw [Operation.apply, Cursor.skipNewline_eq_skip]
    exact tracks.skip rfl
  | finalize kind inline => exact tracks.finalize kind inline

theorem replay (tracks : Tracks text acts c) (operations : List Operation) :
    Tracks text (acts ++ Operation.actsOf operations c) (Operation.replay operations c) := by
  induction operations generalizing acts c with
  | nil => simpa [Operation.actsOf, Operation.replay] using tracks
  | cons operation rest ih =>
    have later := ih (tracks.apply operation)
    rw [List.append_assoc] at later
    exact later

end Tracks

/-! ## Cursors and tokens agree with their course -/

/-- How a token agrees with what happened before it was made, and with the text from its start to
its end. -/
structure Token.Fits (text : List Char) (before : List Act) (token : Token) (start stop : Nat) :
    Prop where
  starts : token.start = start
  stops : token.stop = stop
  ordered : start ≤ stop
  inside : stop ≤ text.length
  line : token.line = (Position.ofOffset text start).line
  column : token.column = (Position.ofOffset text start).column
  value : token.value.toList = Act.value (Act.since before)
  within : token.value.toList.Sublist ((text.take stop).drop start)
  /-- Where all characters from the start on were recorded, the value is all of the text there. -/
  whole : (∀ act ∈ (Act.moves before).drop start, act.isPassed = false) →
    token.value.toList = (text.take stop).drop start

theorem Tracks.fits {text : List Char} {acts : List Act} {c : Cursor} (tracks : Tracks text acts c)
    (kind : Kind) (inline : Bool) :
    ∃ start stop, (c.token kind inline).Fits text acts start stop := by
  obtain ⟨front, split, starts⟩ := tracks.origin
  have whole : text = front ++ (Act.chars (Act.span acts) ++ c.ahead) := by
    rw [← tracks.text, split, List.append_assoc]
  have origin : c.origin = .ofOffset text front.length := by
    rw [starts, whole, Position.start_after]
  have stop : c.position.offset = c.behind.length := by
    rw [tracks.position]
    simp [Position.start]
  have length : c.behind.length = front.length + (Act.chars (Act.span acts)).length := by
    rw [← List.length_reverse, split, List.length_append]
  have slice : (text.take c.behind.length).drop front.length = Act.chars (Act.span acts) := by
    rw [whole, length, ← List.append_assoc, ← List.length_append, List.take_left, List.drop_left]
  have value : c.pending = Act.value (Act.span acts) := by
    rw [Act.span, Act.value_dropWhile_isPassed, tracks.pending]
  refine ⟨front.length, c.behind.length, ?_⟩
  constructor
  case starts => simp [Cursor.token, origin, Position.ofOffset]
  case stops => simp [Cursor.token, stop]
  case ordered => omega
  case inside => simp [← tracks.text]
  case line => rw [Cursor.token, origin]
  case column => rw [Cursor.token, origin]
  case value => simp [Cursor.token, tracks.pending]
  case within =>
    rw [slice]
    simpa [Cursor.token, value] using Act.value_sublist_chars _
  case whole =>
    intro kept
    rw [Act.drop_moves (tracks.chars.trans split)] at kept
    rw [slice, ← Act.value_eq_chars kept]
    simp [Cursor.token, value]

theorem Act.exists_append_of_plain {run acts before after : List Act} {token : Token}
    (plain : ∀ act ∈ run, act.isMade = false)
    (split : run ++ acts = before ++ .made token :: after) :
    ∃ more, before = run ++ more ∧ acts = more ++ .made token :: after := by
  rcases List.append_eq_append_iff.1 split with ⟨more, same, rest⟩ | ⟨more, rfl, rest⟩
  · exact ⟨more, same, rest⟩
  · cases more with
    | nil => exact ⟨[], by simp, rest.symm⟩
    | cons act more =>
      cases rest
      cases plain (.made token) (by simp)

theorem Operation.exists_eq_finalize {operation : Operation} {c : Cursor}
    (makes : ¬∀ act ∈ operation.acts c, act.isMade = false) :
    ∃ kind inline, operation = .finalize kind inline := by
  cases operation with
  | finalize kind inline => exact ⟨kind, inline, rfl⟩
  | advance => exact absurd (Act.plain_recorded _) makes
  | recordUntil stop => exact absurd (Act.plain_recorded _) makes
  | _ => exact absurd (Act.plain_passed _) makes

theorem Operation.actsOf_append (first later : List Operation) (c : Cursor) :
    actsOf (first ++ later) c = actsOf first c ++ actsOf later (replay first c) := by
  induction first generalizing c with
  | nil => rfl
  | cons operation first ih =>
    rw [List.cons_append, actsOf, actsOf, ih, List.append_assoc]
    rfl

/-- A token among the acts was made by an operation, of what was recorded then. -/
theorem Operation.exists_of_made {operations : List Operation} {c : Cursor}
    {before after : List Act} {token : Token}
    (split : actsOf operations c = before ++ .made token :: after) :
    ∃ first kind inline later, operations = first ++ .finalize kind inline :: later ∧
      before = actsOf first c ∧ token = (replay first c).token kind inline := by
  induction operations generalizing c before with
  | nil => simp [actsOf] at split
  | cons operation rest ih =>
    rw [actsOf] at split
    by_cases moves : ∀ act ∈ operation.acts c, act.isMade = false
    · obtain ⟨more, rfl, rest⟩ := Act.exists_append_of_plain moves split
      obtain ⟨first, kind, inline, later, rfl, rfl, rfl⟩ := ih rest
      exact ⟨operation :: first, kind, inline, later, rfl, rfl, rfl⟩
    · obtain ⟨kind, inline, rfl⟩ := exists_eq_finalize moves
      cases before with
      | nil =>
        cases split
        exact ⟨[], kind, inline, rest, rfl, rfl, rfl⟩
      | cons act before =>
        obtain ⟨rfl, rest⟩ := List.cons.inj split
        obtain ⟨first, other, flag, later, rfl, rfl, rfl⟩ := ih rest
        exact ⟨.finalize kind inline :: first, other, flag, later, rfl, rfl, rfl⟩

namespace Course

/-- The course with more done after it. -/
def followedBy (course : Course) (operations : List Operation) : Course :=
  { course with operations := course.operations ++ operations }

theorem cursor_followedBy (course : Course) (operations : List Operation) :
    (course.followedBy operations).cursor = Operation.replay operations course.cursor :=
  List.foldl_append

theorem acts_followedBy (course : Course) (operations : List Operation) :
    (course.followedBy operations).acts =
      course.acts ++ Operation.actsOf operations course.cursor :=
  Operation.actsOf_append ..

theorem tracks (course : Course) : Tracks course.source.toList course.acts course.cursor :=
  (Tracks.ofSource ..).replay course.operations

theorem offset_eq (course : Course) :
    course.cursor.position.offset = (Act.chars course.acts).length := by
  rw [course.tracks.position, course.tracks.chars]
  simp [Position.start]

/-- A cursor never moves back. -/
theorem offset_le_followedBy (course : Course) (operations : List Operation) :
    course.cursor.position.offset ≤ (course.followedBy operations).cursor.position.offset := by
  rw [offset_eq, offset_eq, acts_followedBy, Act.chars_append, List.length_append]
  exact Nat.le_add_right ..

/-- What holds of the cursor of a course and of the tokens made on it. -/
structure Sound (course : Course) : Prop where
  source : course.cursor.source = course.source
  inside : course.cursor.position.offset ≤ course.source.length
  /-- The cursor never moved back on its way. -/
  forward : ∀ first later, course.operations = first ++ later →
    ({ course with operations := first } : Course).cursor.position.offset ≤
      course.cursor.position.offset
  position :
    course.cursor.position = .ofOffset course.source.toList course.cursor.position.offset
  chars : Act.chars course.acts = course.source.toList.take course.cursor.position.offset
  pending : course.cursor.pending = Act.value (Act.since course.acts)
  count : course.cursor.count = course.acts.countP Act.isMade
  tokens : ∀ before token after, course.acts = before ++ .made token :: after →
    ∃ start stop, token.Fits course.source.toList before start stop

/-- Whatever is done to a cursor, it agrees with its course. -/
theorem sound (course : Course) : course.Sound := by
  have tracks := course.tracks
  have text : course.source.toList = Act.chars course.acts ++ course.cursor.ahead := by
    rw [tracks.chars, tracks.text]
  constructor
  case source => rw [Cursor.source, tracks.text, String.ofList_toList]
  case inside =>
    rw [offset_eq, ← String.length_toList, text, List.length_append]
    exact Nat.le_add_right ..
  case forward =>
    intro first later split
    have same : course = ({ course with operations := first } : Course).followedBy later := by
      rw [followedBy, ← split]
    conv => rhs; rw [same]
    exact offset_le_followedBy _ later
  case position =>
    rw [offset_eq, text, ← Position.start_after, tracks.position, tracks.chars]
  case chars => rw [offset_eq, text, List.take_left]
  case pending => exact tracks.pending
  case count => exact tracks.count
  case tokens =>
    intro before token after split
    obtain ⟨first, kind, inline, later, -, rfl, rfl⟩ := Operation.exists_of_made split
    exact ({ course with operations := first } : Course).tracks.fits kind inline

/-- A character that is passed between two recorded ones is missing from the value. -/
example :
    ({ source := "a b", operations := [.advance, .skipOne, .advance, .finalize .text false] } :
      Course).acts =
      [.recorded 'a', .passed ' ', .recorded 'b',
        .made { kind := .text, value := "ab", stop := 3 }] := by
  cbv

end Course

end Scenario
