import Scenario.Proofs.Listening
import Scenario.Proofs.Progress

/-! # A listener that fails

A listener may object to a token: it raises when it is handed the token, or its filter fails. The
token has been made by then, so that the cursor stands right behind it, and the delimiter after it
is not passed. Whoever subscribed earlier has received the token and whoever subscribed later has
not, and the failure leaves the pass as it came (`exec_pass_objection`). It does not matter which
rule the token belongs to, or how deep in the work it was made: a pass is one turn after another,
and every turn makes its token in the same way (`sequel_of_turn`).
-/

namespace Scenario

namespace Scan

/-- The first token of a pass is that of its first turn. -/
theorem exists_turn_of_tokens {resume : Resume} {c : Cursor} {token : Token} {tokens : List Token}
    (read : (passFrom resume c).tokens = token :: tokens) :
    ∃ kind inline warning left next, turn resume c = .emit kind inline warning left next ∧
      token = next.token kind inline ∧ (passFrom left (next.finalize kind)).tokens = tokens := by
  rw [passFrom_eq_pass_turn] at read
  cases move : turn resume c with
  | emit kind inline warning left next =>
    rw [move] at read
    obtain ⟨first, others⟩ := List.cons.inj read
    exact ⟨kind, inline, warning, left, next, rfl, first.symm, others⟩
  | done next =>
    rw [move] at read
    cases read
  | fail fault next =>
    rw [move] at read
    cases read

end Scan

namespace Session

section Turns

variable {number : Nat} {registry : Registry} {c : Cursor} {s t : Session}

/-- A move puts the cursor where it belongs, wherever it was before. -/
theorem run_carryOut_modifyCursor (again : Job → Run Answer) (move : Scan.Move)
    (change : Cursor → Cursor) :
    (carryOut again number move).run.run (s.modifyCursor number change) =
      (carryOut again number move).run.run s := by
  have placed : ∀ next : Cursor,
      (modify fun session => session.modifyCursor number fun _ => next : Run Unit).run.run
        (s.modifyCursor number change) =
      (modify fun session => session.modifyCursor number fun _ => next : Run Unit).run.run s :=
    fun next => congrArg (Prod.mk _) (modifyCursor_modifyCursor s number change _)
  cases move with
  | emit kind inline warning resume next => rw [carryOut, run_bind, run_bind, placed]
  | done next => rw [carryOut, run_bind, run_bind, placed]
  | fail fault next => rw [carryOut, run_bind, run_bind, placed]

/-- Where a turn makes a token, the session gets there by finishing the rule at hand, and by reading
a line where that gives none. -/
theorem sequel_of_turn {resume left : Scan.Resume} {kind : Kind} {inline : Bool}
    {warning : Option Span} {next : Cursor} {result : Except Failure Answer}
    (found : s.scanners[number]? = some ⟨c, registry⟩)
    (move : Scan.turn resume c = .emit kind inline warning left next)
    (sequel : Sequel number
      (fun fuel => carryOut (exec fuel) number (.emit kind inline warning left next)) s result t) :
    Sequel number (exec · (.resume number resume)) s result t := by
  cases step : resume.step c with
  | emit kind' inline' warning' left' next' =>
    have same : Scan.turn resume c = .emit kind' inline' warning' left' next' := by
      rw [Scan.turn, step]
    rw [← move, same, ← step] at sequel
    exact sequel.replace fun _ _ yields => ((yields_scannerAt found).bind yields).exec
  | fail fault next' =>
    rw [Scan.turn, step] at move
    cases move
  | done middle =>
    rw [Scan.turn, step] at move
    by_cases finished : middle.finished = true
    · simp [finished] at move
    · simp only [finished, Bool.false_eq_true, if_false] at move
      have placed := getElem?_modifyCursor found fun _ => middle
      rw [← move] at sequel
      have moved : Sequel number (fun fuel => carryOut (exec fuel) number (Scan.line middle))
          (s.modifyCursor number fun _ => middle) result t := by
        apply sequel.replace
        rintro result u ⟨enough, yields⟩
        refine ⟨enough, fun fuel large => ?_⟩
        rw [run_carryOut_modifyCursor, yields fuel large]
      exact .inr ⟨_, _, yields_resume_of_done found step,
        moved.yields_pass placed (by simpa using finished)⟩

/-- A token is made where the cursor is put, and delivered with the cursor right behind it. -/
theorem yields_finalize_at {kind : Kind} {inline : Bool} {next : Cursor}
    {result : Except Failure Answer} (found : s.scanners[number]? = some ⟨c, registry⟩)
    (handed : Yields (exec · (.deliver (next.token kind inline) registry.subscriptions))
      (s.modifyCursor number fun _ => next.finalize kind) result t) :
    Yields (exec · (.finalize number kind inline)) (s.modifyCursor number fun _ => next)
      (result.map fun _ => { reply := .token (next.token kind inline) }) t := by
  have placed := getElem?_modifyCursor found fun _ => next
  have made : (s.modifyCursor number fun _ => next).modifyCursor number (·.finalize kind) =
      s.modifyCursor number fun _ => next.finalize kind := modifyCursor_modifyCursor _ _ _ _
  rw [← made] at handed
  cases result with
  | ok answer => exact yields_finalize placed handed
  | error failure => exact yields_finalize_error placed handed

end Turns

/-! ## The first objection -/

/-- Everyone takes what they want of `front`, and so do all but the critic of `event`, to which the
critic objects. -/
structure Disputed (s : Session) (before : List Subscription) (critic : Subscription)
    (after : List Subscription) (front : List Token) (event : Token) (message : String) :
    Prop where
  passive : Passive (before ++ after) s
  raises : ∀ consumer ∈ s.consumers[critic.consumer]?, consumer.OnlyRaises
  silent : ∀ token ∈ front, s.objection? critic token = none
  objects : s.objection? critic event = some message

section Objection

variable {number : Nat} {registry : Registry} {c : Cursor} {s t : Session}
  {before after : List Subscription} {critic : Subscription} {front rest : List Token}
  {event token : Token} {message : String}

theorem Disputed.modifyCursor (disputed : Disputed s before critic after front event message)
    (number : Nat) (change : Cursor → Cursor) :
    Disputed (s.modifyCursor number change) before critic after front event message :=
  ⟨disputed.passive, disputed.raises, disputed.silent, disputed.objects⟩

theorem Disputed.foldl_accept (disputed : Disputed s before critic after front event message)
    (receipts : List Receipt) :
    Disputed (receipts.foldl accept s) before critic after front event message := by
  induction receipts generalizing s with
  | nil => exact disputed
  | cons receipt receipts ih =>
    apply ih
    refine ⟨disputed.passive.of_alike (alike_foldl_accept s [receipt]),
      onlyRaises_accept receipt disputed.raises, ?_, ?_⟩
    · intro token member
      rw [objection?_accept, disputed.silent token member]
    · rw [objection?_accept, disputed.objects]

theorem Disputed.tail (disputed : Disputed s before critic after (token :: front) event message) :
    Disputed s before critic after front event message :=
  ⟨disputed.passive, disputed.raises,
    fun other member => disputed.silent other (List.mem_cons_of_mem _ member), disputed.objects⟩

theorem Disputed.yields_deliver (disputed : Disputed s before critic after (token :: front) event
    message) :
    Yields (exec · (.deliver token (before ++ critic :: after))) s (.ok {})
      ((round (before ++ critic :: after) token).foldl accept s) := by
  apply yields_deliver_round
  intro subscription member
  rcases List.mem_append.1 member with member | member
  · exact disputed.passive.consents (List.mem_append_left _ member) token
  · rcases List.mem_cons.1 member with rfl | member
    · exact ⟨disputed.raises, disputed.silent token List.mem_cons_self⟩
    · exact disputed.passive.consents (List.mem_append_right _ member) token

theorem Disputed.yields_deliver_event (disputed : Disputed s before critic after front event
    message) :
    Yields (exec · (.deliver event (before ++ critic :: after))) s (.error (.raised message))
      ((round (before ++ [critic]) event).foldl accept s) := by
  have both : round (before ++ [critic]) event = round before event ++ round [critic] event := by
    simp [round]
  have left := disputed.foldl_accept (round before event)
  rw [both, List.foldl_append]
  apply yields_deliver_append
  · intro subscription member
    exact disputed.passive.consents (List.mem_append_left _ member) event
  · exact yields_deliver_objection left.raises left.objects

/-- The cursor right behind a token, of which it is the last of so many. -/
structure Stands (c : Cursor) (count : Nat) (event : Token) : Prop where
  count : c.count = count
  latest : c.latest = some event.kind
  pending : c.pending = []
  offset : (c.position.offset : Int) = event.stop

/-- The induction is on the tokens before the one that is objected to, and takes a turn for each. -/
theorem Disputed.exists_sequel (disputed : Disputed s before critic after front event message)
    (listeners : registry.subscriptions = before ++ critic :: after) {resume : Scan.Resume}
    (found : s.scanners[number]? = some ⟨c, registry⟩)
    (stream : (Scan.passFrom resume c).tokens = front ++ event :: rest) :
    ∃ d, Stands d (c.count + front.length + 1) event ∧
      Sequel number (exec · (.resume number resume)) s (.error (.raised message))
        (((rounds registry.subscriptions front ++ round (before ++ [critic]) event).foldl
          accept s).modifyCursor number fun _ => d) := by
  induction front generalizing s c resume with
  | nil =>
    obtain ⟨kind, inline, warning, left, next, move, rfl, -⟩ := Scan.exists_turn_of_tokens stream
    have unmade := Scan.unmade_turn c resume
    rw [move] at unmade
    have delivered :=
      (disputed.modifyCursor number fun _ => next.finalize kind).yields_deliver_event
    rw [← listeners, modifyCursor_foldl_accept] at delivered
    refine ⟨next.finalize kind, ⟨?_, rfl, rfl, rfl⟩, sequel_of_turn found move ?_⟩
    · exact congrArg (· + 1) unmade.count
    · exact .inl ⟨_, rfl, (yields_modify _ s).bind (yields_finalize_at found delivered).bind_error⟩
  | cons token front ih =>
    obtain ⟨kind, inline, warning, left, next, move, rfl, others⟩ :=
      Scan.exists_turn_of_tokens stream
    have unmade := Scan.unmade_turn c resume
    rw [move] at unmade
    have kept := disputed.modifyCursor number fun _ => next.finalize kind
    have delivered := kept.yields_deliver
    rw [← listeners] at delivered
    have there := getElem?_modifyCursor found fun _ => next.finalize kind
    rw [← (alike_foldl_accept _ (round registry.subscriptions
      (next.token kind inline))).scanners] at there
    obtain ⟨d, stands, sequel⟩ := ih (kept.foldl_accept _).tail there others
    have counted : (next.finalize kind).count = c.count + 1 := congrArg (· + 1) unmade.count
    have ended := sequel_of_turn found move (.emit (yields_finalize_at found delivered) sequel)
    refine ⟨d, ?_, ?_⟩
    · rw [counted] at stands
      rw [List.length_cons, Nat.add_comm front.length, ← Nat.add_assoc]
      exact stands
    · rw [modifyCursor_foldl_accept, modifyCursor_foldl_accept, modifyCursor_modifyCursor,
        ← List.foldl_append, ← List.append_assoc] at ended
      exact ended

/-- Whoever subscribed no later than the critic has received what it wants of the tokens up to the
one that is objected to. -/
theorem tokensOf_objection_before
    (distinct : ((before ++ critic :: after).map (·.ticket)).Nodup) {subscription : Subscription}
    (member : subscription ∈ before ++ [critic]) :
    tokensOf (·.ticket = subscription.ticket)
        (rounds (before ++ critic :: after) front ++ rounds (before ++ [critic]) [event]) =
      (front ++ [event]).filter subscription.wants := by
  have split : before ++ critic :: after = (before ++ [critic]) ++ after := by simp
  rw [split] at distinct ⊢
  have all := tokensOf_rounds (filter_ticket distinct (List.mem_append_left after member)) front
  rw [List.map_append, List.nodup_append] at distinct
  have last := tokensOf_rounds (filter_ticket distinct.1 member) [event]
  rw [tokensOf_append, all, last, List.filter_append]

/-- Whoever subscribed later has received what it wants of the tokens before that. -/
theorem tokensOf_objection_after
    (distinct : ((before ++ critic :: after).map (·.ticket)).Nodup) {subscription : Subscription}
    (member : subscription ∈ after) :
    tokensOf (·.ticket = subscription.ticket)
        (rounds (before ++ critic :: after) front ++ rounds (before ++ [critic]) [event]) =
      front.filter subscription.wants := by
  have split : before ++ critic :: after = (before ++ [critic]) ++ after := by simp
  rw [split] at distinct ⊢
  have all := tokensOf_rounds (filter_ticket distinct (List.mem_append_right _ member)) front
  rw [List.map_append, List.nodup_append] at distinct
  have none : tokensOf (·.ticket = subscription.ticket) (rounds (before ++ [critic]) [event]) =
      [] := by
    rw [tokensOf, List.map_eq_nil_iff, List.filter_eq_nil_iff]
    intro receipt inside same
    exact distinct.2.2 _ (List.mem_map_of_mem (mem_of_mem_rounds inside)) _
      (List.mem_map_of_mem member) (of_decide_eq_true same)
  rw [tokensOf_append, all, none, List.append_nil]

end Objection

/-- A listener that fails stops the pass at a clean point. Let the pass read the tokens of `front`
and then `event`, and let this be the first token to which a listener objects among others that are
passive. Then the pass ends with what that listener raised. Those who subscribed before it, and the
listener itself, have received what they want of the tokens up to `event`, and those who subscribed
after it of the tokens before. The cursor has made so many tokens, `event` last, and stands where it
stops, with nothing recorded. If it was the end of the input, then a later pass does nothing. -/
theorem exec_pass_objection {source : String} {file : Option String} {options : Options}
    {s : Session} {number : Nat} {registry : Registry} {before after : List Subscription}
    {critic : Subscription} {front rest : List Token} {event : Token} {message : String}
    (found : s.scanners[number]? = some ⟨.ofSource source file options, registry⟩)
    (listeners : registry.subscriptions = before ++ critic :: after)
    (distinct : (registry.subscriptions.map (·.ticket)).Nodup)
    (stream : (Scan.pass (.ofSource source file options)).tokens = front ++ event :: rest)
    (disputed : Disputed s before critic after front event message) :
    let receipts := rounds registry.subscriptions front ++ rounds (before ++ [critic]) [event]
    ∃ t d, Yields (exec · (.pass number)) s (.error (.raised message)) t ∧
      t.scanners[number]? = some ⟨d, registry⟩ ∧
      d.count = front.length + 1 ∧ d.latest = some event.kind ∧ d.pending = [] ∧
      (d.position.offset : Int) = event.stop ∧
      Hears number receipts d s t ∧
      (∀ subscription ∈ before ++ [critic],
        tokensOf (·.ticket = subscription.ticket) receipts =
          (front ++ [event]).filter subscription.wants) ∧
      (∀ subscription ∈ after,
        tokensOf (·.ticket = subscription.ticket) receipts = front.filter subscription.wants) ∧
      (event.kind = .endOfInput → Yields (exec · (.pass number)) t (.ok {}) t) := by
  intro receipts
  obtain ⟨d, stands, sequel⟩ := disputed.exists_sequel listeners found stream
  have one : round (before ++ [critic]) event = rounds (before ++ [critic]) [event] := by
    simp [rounds]
  rw [one] at sequel
  have kept := (alike_foldl_accept s receipts).scanners
  have left := getElem?_modifyCursor (by rw [kept, found]) fun _ => d
  refine ⟨_, d, sequel.yields_pass_of_finish found, left, ?_, stands.latest, stands.pending,
    stands.offset, hears_foldl_accept s receipts number d, ?_, ?_, ?_⟩
  · rw [stands.count]
    simp [Cursor.ofSource]
  · intro subscription member
    rw [listeners] at distinct
    simp only [receipts, listeners]
    exact tokensOf_objection_before distinct member
  · intro subscription member
    rw [listeners] at distinct
    simp only [receipts, listeners]
    exact tokensOf_objection_after distinct member
  · intro last
    apply yields_pass_of_finished left
    rw [Cursor.finished, stands.latest, last]
    rfl

/-- Two recorders, and between them a third one that raises when it is handed a given text. -/
def contested (cursor : Cursor) (text : String) : Session where
  scanners := #[{ cursor, registry := ⟨[
    { ticket := 0, name := "first", consumer := 0, whole := true },
    { ticket := 1, name := "critic", consumer := 1 },
    { ticket := 2, name := "last", consumer := 2 }]⟩ }]
  consumers := #[
    .recorder { name := "first", home := mainCursor },
    .recorder
      { name := "critic", home := mainCursor
        reactions := [{ given := (·.value == text), step := { command := .raise "no" } }] },
    .recorder { name := "last", home := mainCursor }]

/-- The second segment of a label is objected to in the middle of its rule, before the end of the
line is passed. -/
theorem exec_pass_objection_segment :
    ∃ (t : Session) (d : Cursor),
      Yields (exec · (.pass 0)) (contested (.ofSource "*a|b\n" none {}) "b")
        (.error (.raised "no")) t ∧
      t.scanners[0]?.map Scanner.cursor = some d ∧ d.count = 2 ∧ d.latest = some .label ∧
      d.pending = [] ∧ (d.position.offset : Int) = 4 ∧
      t.log.toList = [
        .whole "first" { kind := .label, value := "a", column := 2, start := 1, stop := 2 },
        .plain "critic" .label "a", .plain "last" .label "a",
        .whole "first" { kind := .label, value := "b", column := 4, start := 3, stop := 4 },
        .plain "critic" .label "b"] := by
  have found : (contested (.ofSource "*a|b\n" none {}) "b").scanners[0]? = some _ := rfl
  have stream : (Scan.pass (.ofSource "*a|b\n" none {})).tokens =
      [{ kind := .label, value := "a", column := 2, start := 1, stop := 2 }] ++
        { kind := .label, value := "b", column := 4, start := 3, stop := 4 } ::
          [{ kind := .endOfInput, value := "", line := 2, start := 5, stop := 5 }] := by
    cbv
  have disputed : Disputed (contested (.ofSource "*a|b\n" none {}) "b")
      [{ ticket := 0, name := "first", consumer := 0, whole := true }]
      { ticket := 1, name := "critic", consumer := 1 }
      [{ ticket := 2, name := "last", consumer := 2 }]
      [{ kind := .label, value := "a", column := 2, start := 1, stop := 2 }]
      { kind := .label, value := "b", column := 4, start := 3, stop := 4 } "no" := by
    refine ⟨?_, ?_, ?_, ?_⟩
    · simp [Passive, contested, Consumer.isPassive, Filter.all]
    · simp [contested, Consumer.OnlyRaises, Reaction.message?]
    · simp [objection?, contested, Consumer.objection?, Filter.all]
    · simp [objection?, contested, Consumer.objection?, Filter.all, Reaction.message?]
  obtain ⟨t, d, yields, left, count, latest, pending, offset, hears, -⟩ :=
    exec_pass_objection found rfl (by decide) stream disputed
  refine ⟨t, d, yields, by rw [left]; rfl, count, latest, pending, offset, ?_⟩
  rw [hears.log]
  cbv

end Session

end Scenario
