import Scenario.Proofs.Growth

/-! # Recording in one piece

A cursor can record a whole run of characters in one piece, up to the next one of a class, or look
at each character and record it alone. The first way reckons line and column from the run as a
whole and adds one piece to what is recorded; the second does both character by character, and
decides at each of them where the token starts. It makes no difference which way is taken, neither
to the cursor (`Cursor.recordUntil_eq_advanceUntil`) nor in a session, where the second way is a
loop of commands (`Session.run_advanceUntil`).
-/

namespace Scenario

namespace Cursor

variable {c : Cursor} {stop : Char → Bool} {char : Char} {rest : List Char}

theorem peek_zero (c : Cursor) : c.peek 0 = c.ahead.head? :=
  List.head?_eq_getElem?.symm

theorem ahead_advance (next : c.ahead = char :: rest) : c.advance.ahead = rest := by
  unfold advance
  rw [next]

/-- Record characters one by one, as long as the next one is not of the class `stop`. -/
def advanceUntil (stop : Char → Bool) (c : Cursor) : Cursor :=
  match _next : c.peek 0 with
  | none => c
  | some char => if stop char then c else advanceUntil stop c.advance
termination_by c.ahead.length
decreasing_by
  rw [peek_zero] at _next
  obtain ⟨rest, ahead⟩ := List.head?_eq_some_iff.1 _next
  rw [ahead_advance ahead, ahead, List.length_cons]
  exact Nat.lt_succ_self _

/-! ## One character at a time -/

theorem recordUntil_of_nil (ended : c.ahead = []) : c.recordUntil stop = c := by
  unfold recordUntil record
  simp [ended]

theorem recordUntil_of_stop (next : c.ahead = char :: rest) (stops : stop char = true) :
    c.recordUntil stop = c := by
  unfold recordUntil record
  simp [next, stops]

/-- Where the next character is not to stop at, it is the first of the run. -/
theorem recordUntil_of_go (next : c.ahead = char :: rest) (goes : stop char = false) :
    c.recordUntil stop = c.advance.recordUntil stop := by
  have run : (c.ahead.takeWhile fun char => !stop char).length =
      (c.advance.ahead.takeWhile fun char => !stop char).length + 1 := by
    rw [ahead_advance next, next, List.takeWhile_cons_of_pos (by simp [goes]), List.length_cons]
  unfold recordUntil
  rw [run, record_succ]

theorem advanceUntil_of_nil (ended : c.ahead = []) : c.advanceUntil stop = c := by
  have none : c.peek 0 = none := by rw [peek_zero, ended, List.head?_nil]
  rw [advanceUntil]
  split
  · rfl
  · next char next => cases none.symm.trans next

theorem advanceUntil_of_cons (next : c.ahead = char :: rest) :
    c.advanceUntil stop = if stop char then c else c.advance.advanceUntil stop := by
  have some : c.peek 0 = some char := by rw [peek_zero, next, List.head?_cons]
  rw [advanceUntil]
  split
  · next none => cases some.symm.trans none
  · next other same =>
    cases some.symm.trans same
    rfl

/-- The induction is on what is ahead. -/
theorem recordUntil_eq_advanceUntil (c : Cursor) (stop : Char → Bool) :
    c.recordUntil stop = c.advanceUntil stop := by
  induction ahead : c.ahead generalizing c with
  | nil => rw [recordUntil_of_nil ahead, advanceUntil_of_nil ahead]
  | cons char rest ih =>
    rw [advanceUntil_of_cons ahead]
    by_cases stops : stop char = true
    · rw [if_pos stops, recordUntil_of_stop ahead stops]
    · rw [if_neg stops, recordUntil_of_go ahead (by simpa using stops)]
      exact ih c.advance (ahead_advance ahead)

theorem atEnd_recordUntil (c : Cursor) (stop : Char → Bool) :
    (c.recordUntil stop).atEnd = !c.ahead.any stop := by
  unfold atEnd
  rw [ahead_recordUntil]
  induction c.ahead with
  | nil => rfl
  | cons char rest ih =>
    by_cases stops : stop char = true
    · simp [stops]
    · simpa [stops] using ih

/-! ## Pieces -/

theorem text_foldl_append (buffer : Text.Buffer) (run : List Char) :
    (run.foldl (fun buffer char => buffer.append (String.singleton char)) buffer).text =
      buffer.text ++ String.ofList run := by
  induction run generalizing buffer with
  | nil => simp
  | cons char run ih =>
    rw [List.foldl_cons, ih, Text.Buffer.text_append]
    apply String.toList_injective
    simp

/-- What a cursor has recorded is a run added to pieces of text, be it as one piece or as one for
each character. The pieces differ, but not what they are asked for: the text that they make up, and
whether there are any. -/
structure Pieces (c : Cursor) (run : List Char) (buffer : Text.Buffer) : Prop where
  whole : (buffer.append (String.ofList run)).text = String.ofList c.pending
  single : (run.foldl (fun buffer char => buffer.append (String.singleton char)) buffer).text =
    String.ofList c.pending
  isEmpty : (buffer.append (String.ofList run)).isEmpty =
    (run.foldl (fun buffer char => buffer.append (String.singleton char)) buffer).isEmpty

theorem pieces_recordUntil {buffer : Text.Buffer} (keeps : buffer.text = String.ofList c.pending)
    (stop : Char → Bool) :
    Pieces (c.recordUntil stop) (c.ahead.takeWhile fun char => !stop char) buffer := by
  have pending : (c.recordUntil stop).pending =
      c.pending ++ c.ahead.takeWhile fun char => !stop char := by
    unfold recordUntil
    rw [pending_record, ← List.prefix_iff_eq_take.1 (List.takeWhile_prefix _)]
  have whole : (buffer.append (String.ofList (c.ahead.takeWhile fun char => !stop char))).text =
      String.ofList (c.recordUntil stop).pending := by
    rw [Text.Buffer.text_append, keeps, pending, String.ofList_append]
  have single := text_foldl_append buffer (c.ahead.takeWhile fun char => !stop char)
  rw [keeps, ← String.ofList_append, ← pending] at single
  refine ⟨whole, single, ?_⟩
  rw [Bool.eq_iff_iff, Text.Buffer.isEmpty_iff_text_eq, Text.Buffer.isEmpty_iff_text_eq, whole,
    single]

end Cursor

namespace Session

/-- Look at the next character of a cursor and record it, again and again, until it is one of the
stops. Answers whether there is such a one. -/
def advanceUntil (fuel : Nat) (name : String) (stops : List String) : Nat → Run Answer
  | 0 => throw .exhausted
  | rounds + 1 => do
      let looked ← exec fuel (.obey name (.peek 0))
      match looked.reply with
      | .char (some char) =>
          if Delimiter.spelledBy stops char then pure { reply := .flag true }
          else do
            let _ ← exec fuel (.obey name .advance)
            advanceUntil fuel name stops rounds
      | _ => pure { reply := .flag false }

section Commands

variable {s : Session} {name : String}

/-- Commands for a cursor that is not there fail before anything is done. -/
theorem run_of_missing (missing : s.scanner? name = none) :
    ∃ failure, ∀ next : Nat → Scanner → Run Answer,
      (numberOf name >>= fun number => scannerAt number >>= next number).run.run s =
        (.error failure, s) := by
  cases named : s.find? name with
  | none =>
    refine ⟨.unknown name, fun next => ?_⟩
    rw [run_bind, run_numberOf, named]
  | some number =>
    have none : s.scanners[number]? = none := by simpa [scanner?, named] using missing
    refine ⟨.unknown (toString number), fun next => ?_⟩
    rw [run_bind, run_numberOf, named]
    simp only [run_bind, run_scannerAt, none]

variable {number : Nat} {scanner : Scanner} (named : s.find? name = some number)
  (found : s.scanners[number]? = some scanner)
include named found

theorem run_peek (fuel : Nat) :
    (exec (fuel + 1) (.obey name (.peek 0))).run.run s =
      (.ok { reply := .char scanner.cursor.ahead.head? }, s) := by
  rw [exec, perform, obey, inspect, run_bind, run_numberOf, named]
  simp only [run_bind, run_scannerAt, found, ← Cursor.peek_zero]
  rfl

theorem run_move (change : Cursor → Cursor) (view : Cursor → Cursor → Reply) :
    (move name change view).run.run s =
      (.ok { reply := view scanner.cursor (change scanner.cursor) },
        s.modifyCursor number fun _ => change scanner.cursor) := by
  unfold move
  rw [run_bind, run_numberOf, named]
  simp only [run_bind, run_scannerAt, found, ← modifyCursor_eq found change]
  rfl

theorem run_advance (fuel : Nat) :
    (exec (fuel + 1) (.obey name .advance)).run.run s =
      (.ok { reply := .char scanner.cursor.ahead.head? },
        s.modifyCursor number fun _ => scanner.cursor.advance) := by
  rw [exec, perform, obey, run_move named found]

theorem run_recordUntil (fuel : Nat) (stops : List String) :
    (exec (fuel + 1) (.obey name (.recordUntil stops))).run.run s =
      (.ok { reply := .flag (scanner.cursor.ahead.any (Delimiter.spelledBy stops)) },
        s.modifyCursor number fun _ =>
          scanner.cursor.recordUntil (Delimiter.spelledBy stops)) := by
  rw [exec, perform, obey, run_move named found, Cursor.atEnd_recordUntil, Bool.not_not]

end Commands

/-- The loop does what the command does at once, if it has a round for each character and one to
stop in. The induction is on the rounds. -/
theorem run_advanceUntil_of_found {s : Session} {name : String} {number : Nat} {scanner : Scanner}
    (named : s.find? name = some number) (found : s.scanners[number]? = some scanner)
    (fuel : Nat) (stops : List String) {rounds : Nat}
    (enough : scanner.cursor.ahead.length < rounds) :
    (advanceUntil (fuel + 1) name stops rounds).run.run s =
      (exec (fuel + 1) (.obey name (.recordUntil stops))).run.run s := by
  induction rounds generalizing s scanner with
  | zero => cases enough
  | succ rounds ih =>
    have still : s.modifyCursor number (fun _ => scanner.cursor) = s := modifyCursor_self found
    rw [advanceUntil, run_bind, run_peek named found, run_recordUntil named found]
    cases ahead : scanner.cursor.ahead with
    | nil =>
      rw [Cursor.recordUntil_of_nil ahead, still]
      rfl
    | cons char rest =>
      simp only [List.head?_cons, List.any_cons]
      by_cases stop : Delimiter.spelledBy stops char = true
      · rw [if_pos stop, Cursor.recordUntil_of_stop ahead stop, still, stop]
        rfl
      · have goes : Delimiter.spelledBy stops char = false := by simpa using stop
        have next := Cursor.ahead_advance ahead
        have moved := getElem?_modifyCursor found fun _ => scanner.cursor.advance
        have fewer : scanner.cursor.advance.ahead.length < rounds := by
          rw [ahead, List.length_cons] at enough
          rw [next]
          omega
        have same : (s.modifyCursor number fun _ => scanner.cursor.advance).find? name =
            some number := named
        have loop := ih same moved fewer
        rw [if_neg stop, run_bind, run_advance named found, Cursor.recordUntil_of_go ahead goes,
          goes, Bool.false_or]
        rw [run_recordUntil same moved, next, modifyCursor_modifyCursor] at loop
        exact loop

theorem run_advanceUntil (fuel : Nat) (name : String) (stops : List String) (s : Session) :
    ∃ enough, ∀ rounds, enough ≤ rounds →
      (advanceUntil (fuel + 1) name stops rounds).run.run s =
        (exec (fuel + 1) (.obey name (.recordUntil stops))).run.run s := by
  cases there : s.scanner? name with
  | none =>
    obtain ⟨failure, fails⟩ := run_of_missing there
    refine ⟨1, fun rounds enough => ?_⟩
    obtain ⟨less, rfl⟩ := Nat.exists_eq_add_of_le' enough
    have looks : (exec (fuel + 1) (.obey name (.peek 0))).run.run s = (.error failure, s) := by
      rw [exec, perform, obey, inspect]
      exact fails _
    have records : (exec (fuel + 1) (.obey name (.recordUntil stops))).run.run s =
        (.error failure, s) := by
      rw [exec, perform, obey, move]
      exact fails _
    rw [advanceUntil, run_bind, looks, records]
  | some scanner =>
    obtain ⟨number, named, found⟩ := Option.bind_eq_some_iff.1 there
    refine ⟨scanner.cursor.ahead.length + 1, fun rounds enough => ?_⟩
    exact run_advanceUntil_of_found named found fuel stops enough

/-- Recording a run in one piece agrees with recording its characters one by one, at any cursor
and for any class of characters to stop at. The cursors are the same in all they hold, and the end
of the input is reached just if no character ahead is one to stop at. If what is recorded is kept as
pieces, these make up the same text either way. In a session the command and the loop of commands
answer the same and leave the same session, so nothing that is done later can tell which it was. -/
theorem recordUntil_stepwise :
    (∀ (c : Cursor) (stop : Char → Bool),
      c.recordUntil stop = c.advanceUntil stop ∧
      (!(c.recordUntil stop).atEnd) = c.ahead.any stop ∧
      ∀ buffer : Text.Buffer, buffer.text = String.ofList c.pending →
        Cursor.Pieces (c.recordUntil stop) (c.ahead.takeWhile fun char => !stop char) buffer) ∧
    ∀ (fuel : Nat) (name : String) (stops : List String) (s : Session),
      ∃ enough, ∀ rounds, enough ≤ rounds →
        (advanceUntil (fuel + 1) name stops rounds).run.run s =
          (exec (fuel + 1) (.obey name (.recordUntil stops))).run.run s := by
  refine ⟨?_, run_advanceUntil⟩
  intro c stop
  refine ⟨c.recordUntil_eq_advanceUntil stop, ?_, ?_⟩
  · rw [c.atEnd_recordUntil stop, Bool.not_not]
  · intro buffer keeps
    exact Cursor.pieces_recordUntil keeps stop

end Session

end Scenario
