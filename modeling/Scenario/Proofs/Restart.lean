import Scenario.Proofs.Shape

/-! # Scanning again

A cursor can be scanned to the end more than once. After a pass that came to the end of the input
there is nothing left to do. After one that failed, the next pass reads the end of the input, and
makes its token of whatever the failure left recorded. So the end of the input has content just
where a construct was cut off that already had some (`endOfInput_passes_iff`).
-/

namespace Scenario

open Grammar

namespace Scan

/-- The tokens of a number of passes, each of which begins where the one before ended. -/
def passes : Nat → Cursor → List Token
  | 0, _ => []
  | n + 1, c => (pass c).tokens ++ passes n (pass c).cursor

/-- Whether a token is what the end of a source should be: empty, and behind everything. -/
def IsEnd (source : String) (token : Token) : Prop :=
  token.value = "" ∧ token.start = (source.length : Int) ∧ token.stop = (source.length : Int)

theorem passes_of_finished {c : Cursor} (finished : c.finished = true) (n : Nat) :
    passes n c = [] := by
  induction n with
  | zero => rfl
  | succ n ih =>
    rw [passes, pass, passFrom_of_finished finished]
    exact ih

/-- A pass with nothing ahead makes one token of what is recorded. -/
theorem pass_of_nil {c : Cursor} (opened : c.finished = false) (ended : c.ahead = []) :
    (pass c).tokens = [c.token .endOfInput false] ∧
      (pass c).cursor = c.finalize .endOfInput := by
  have blanks : c.skipBlanks = c := by simp [Cursor.skipBlanks, ended]
  have read : line c = .emit .endOfInput false none .finish c := by
    rw [line, blanks, ite_self, route_of_nil ended]
  have next : turn .finish c = line c := by simp [turn, Resume.step, opened]
  rw [pass, passFrom_eq_pass_turn, next, read, Move.pass, passFrom_of_finished rfl]
  exact ⟨rfl, rfl⟩

/-! ## The passes over one source -/

/-- A reading that breaks off has not come to the end of the input. -/
theorem kind_ne_endOfInput_of_broken {options : Options} {file : Option String}
    {context : Context} {p : Position} {s : List Char} {reading : Reading} {fault : Fault}
    {pending : List Char} (reads : Reads options file context p s reading)
    (broken : reading.ending = .broken fault pending) :
    ∀ token ∈ reading.tokens, token.kind ≠ .endOfInput := by
  induction reads with
  | complete free leads => cases broken
  | broken unfinished => simp
  | piece lexeme reads ih =>
    intro token member
    rcases List.mem_cons.1 member with rfl | member
    · exact lexeme.kind_ne_endOfInput
    · exact ih broken token member

section Source

variable {source : String} {file : Option String} {options : Options} {reading : Reading}
  (reads : Reads options file .line .start source.toList reading)
include reads

theorem isEnd_of_reads {token : Token} (member : token ∈ reading.tokens)
    (ends : token.kind = .endOfInput) : IsEnd source token := by
  cases ending : reading.ending with
  | complete =>
    obtain ⟨front, same, other⟩ := Shape.ended_of_reads reads ending
    rw [same, List.mem_append, List.mem_singleton] at member
    rcases member with member | rfl
    · exact absurd ends (other token member)
    · simp [IsEnd, Position.token, Position.start, String.length_toList]
  | broken fault pending =>
    exact absurd ends (kind_ne_endOfInput_of_broken reads ending token member)

/-- After a pass that came to its end, the passes that follow read nothing. -/
theorem passes_of_complete (complete : reading.ending = .complete) (n : Nat) :
    passes (n + 1) (.ofSource source file options) = reading.tokens := by
  have follows := follows_pass reads
  obtain ⟨front, same, -⟩ := Shape.ended_of_reads reads complete
  have finished : (pass (.ofSource source file options)).cursor.finished = true := by
    rw [Cursor.finished, follows.latest, same]
    simp [Position.token]
  rw [passes, passes_of_finished finished, follows.tokens, List.append_nil]

/-- After a pass that failed, the next one makes a token of what is still recorded. -/
theorem passes_of_broken {fault : Fault} {pending : List Char}
    (broken : reading.ending = .broken fault pending) (n : Nat) :
    passes (n + 2) (.ofSource source file options) =
      reading.tokens ++
        [(pass (.ofSource source file options)).cursor.token .endOfInput false] := by
  have follows := follows_pass reads
  have opened : (pass (.ofSource source file options)).cursor.finished = false := by
    rw [Cursor.finished, follows.latest]
    cases last : reading.tokens.getLast? with
    | none => rfl
    | some token =>
      have other := kind_ne_endOfInput_of_broken reads broken token (List.mem_of_getLast? last)
      simpa using other
  obtain ⟨tokens, cursor⟩ := pass_of_nil opened follows.ahead
  rw [passes, passes, tokens, cursor, passes_of_finished rfl, follows.tokens, List.append_nil]

end Source

/-- Over any number of passes the end of the input is empty and behind everything, except in a
second pass where the first one left something recorded. -/
theorem endOfInput_passes_iff (source : String) (file : Option String) (options : Options)
    (n : Nat) :
    (∀ token ∈ passes n (.ofSource source file options), token.kind = .endOfInput →
        IsEnd source token) ↔
      n ≤ 1 ∨ (pass (.ofSource source file options)).cursor.pending = [] := by
  obtain ⟨reading, reads, follows⟩ := exists_follows_pass source file options
  match n with
  | 0 => simp [passes]
  | 1 =>
    have once : passes 1 (.ofSource source file options) = reading.tokens := by
      simp [passes, follows.tokens]
    rw [once]
    exact ⟨fun _ => .inl (by omega), fun _ token member => isEnd_of_reads reads member⟩
  | n + 2 =>
    cases ending : reading.ending with
    | complete =>
      rw [passes_of_complete reads ending, follows.pending, ending]
      exact ⟨fun _ => .inr rfl, fun _ token member => isEnd_of_reads reads member⟩
    | broken fault pending =>
      rw [passes_of_broken reads ending]
      constructor
      · intro ends
        have last := ends _ (List.mem_append_right _ (List.mem_singleton_self _)) rfl
        right
        simpa [IsEnd, Cursor.token] using last.1
      · intro either token member kind
        have clean : (pass (.ofSource source file options)).cursor.pending = [] := by
          rcases either with few | clean
          · omega
          · exact clean
        rw [List.mem_append, List.mem_singleton] at member
        rcases member with member | rfl
        · exact isEnd_of_reads reads member kind
        · have offset : (pass (.ofSource source file options)).cursor.position.offset =
              source.length := by
            rw [follows.position]
            simp [Cursor.ofSource, Position.start, String.length_toList]
          simp [IsEnd, Cursor.token, Cursor.origin, clean, offset]

end Scan

namespace Session

/-- A scan that is started a number of times, whether it fails or not, and what is delivered. -/
inductive Restarts (number : Nat) : Nat → List Token → Session → Session → Prop where
  | none {s : Session} : Restarts number 0 [] s s
  | again {n : Nat} {tokens more : List Token} {s t u : Session}
      {result : Except Failure Answer} (yields : Yields (exec · (.pass number)) s result t)
      (delivers : Delivers number tokens s t) (rest : Restarts number n more t u) :
      Restarts number (n + 1) (tokens ++ more) s u

theorem exists_restarts {number : Nat} {registry : Registry} {holds : Session → Prop}
    (quiet : Undisturbed number registry.subscriptions holds) (n : Nat) {c : Cursor} {s : Session}
    (held : holds s) (found : s.scanners[number]? = some ⟨c, registry⟩) :
    ∃ t, Restarts number n (Scan.passes n c) s t := by
  induction n generalizing c s with
  | zero => exact ⟨s, .none⟩
  | succ n ih =>
    obtain ⟨t, yields, delivers, left, still⟩ := exists_yields_pass_holds quiet held found
    obtain ⟨u, rest⟩ := ih still left
    exact ⟨u, .again yields delivers rest⟩

/-- A scan may be started any number of times before listeners who leave it alone. Every end of the
input that is delivered is empty and stands at the end of the source just if it was started once at
most, or nothing was left recorded the first time. -/
theorem exec_passes_endOfInput {session : Session} {number : Nat} {source : String}
    {file : Option String} {options : Options} {registry : Registry} {holds : Session → Prop}
    (found : session.scanners[number]? = some ⟨.ofSource source file options, registry⟩)
    (quiet : Undisturbed number registry.subscriptions holds) (held : holds session) (n : Nat) :
    ∃ tokens after, Restarts number n tokens session after ∧
      tokens = Scan.passes n (.ofSource source file options) ∧
      ((∀ token ∈ tokens, token.kind = .endOfInput → token.value = "" ∧
          token.start = (source.length : Int) ∧ token.stop = (source.length : Int)) ↔
        n ≤ 1 ∨ (Scan.pass (.ofSource source file options)).cursor.pending = []) := by
  obtain ⟨after, restarts⟩ := exists_restarts quiet n held found
  exact ⟨_, after, restarts, rfl, Scan.endOfInput_passes_iff source file options n⟩

/-- A directive that has no name leaves nothing behind, and may be followed by any number of
passes. -/
theorem exec_passes_endOfInput_nameless :
    ∃ tokens after, Restarts 0 3 tokens (audience (.ofSource "a\n@" none {})) after ∧
      ∀ token ∈ tokens, token.kind = .endOfInput → token.value = "" ∧
        token.start = (3 : Int) ∧ token.stop = (3 : Int) := by
  have found : (audience (.ofSource "a\n@" none {})).scanners[0]? = some _ := rfl
  obtain ⟨tokens, after, restarts, -, ends⟩ :=
    exec_passes_endOfInput found (undisturbed_passive 0 _) (passive_audience _) 3
  have clean : (Scan.pass (.ofSource "a\n@" none {})).cursor.pending = [] := by cbv
  exact ⟨tokens, after, restarts, ends.2 (.inr clean)⟩

/-- The name of a directive that is cut off comes back as the value of the end of the input. -/
theorem run_restarted_directive :
    (run 9 [
        { command := .create "@abc" none none },
        { command := .register "l" .all true [] none },
        { command := .start },
        { command := .start }]).map (·.trace) =
      [[], [], [],
        [.whole "l"
          { kind := .endOfInput, value := "abc", line := 1, column := 2, start := 1,
            stop := 4 }]] := by
  decide +kernel

end Session

end Scenario
