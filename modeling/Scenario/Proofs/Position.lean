import Scenario.Position

/-! # Positions along a run

A position can be carried over a run of characters one by one (`Position.next`) or all at once
(`Position.after`), and the run may be cut anywhere: the results agree.
-/

namespace Scenario.Position

@[simp] theorem after_nil (p : Position) : p.after [] = p := rfl

@[simp] theorem offset_after (p : Position) (run : List Char) :
    (p.after run).offset = p.offset + run.length := rfl

/-- Behind the last line feed of a run stands the same whatever comes before the run. -/
private theorem takeWhile_feed_append {run : List Char} (c : Char) (feed : run.count '\n' ≠ 0) :
    (run.reverse ++ [c]).takeWhile (· != '\n') = run.reverse.takeWhile (· != '\n') := by
  have member : '\n' ∈ run.reverse := by
    rw [List.mem_reverse]
    exact List.count_pos_iff.1 (Nat.pos_of_ne_zero feed)
  obtain ⟨before, after, split⟩ := List.append_of_mem member
  rw [split, List.append_assoc, List.cons_append, List.takeWhile_append, List.takeWhile_append]
  split <;> simp

/-- A run without line feeds stands on one line. -/
private theorem takeWhile_plain_append {run : List Char} (c : Char) (plain : run.count '\n' = 0) :
    (run.reverse ++ [c]).takeWhile (· != '\n') = run.reverse ++ [c].takeWhile (· != '\n') := by
  apply List.takeWhile_append_of_pos
  intro d member
  have absent := List.count_eq_zero.1 plain
  simpa using fun same : d = '\n' => absent (same ▸ List.mem_reverse.1 member)

/-- A run can be passed by its first character and then the rest. Only where the rest has no line
feed does the first character matter for the column. -/
theorem after_cons (p : Position) (c : Char) (run : List Char) :
    p.after (c :: run) = (p.next c).after run := by
  by_cases plain : run.count '\n' = 0
  · have column := takeWhile_plain_append c plain
    by_cases feed : c = '\n'
    · subst feed
      simp [after, next, plain, column]
      omega
    · simp [after, next, feed, plain]
      omega
  · have column := takeWhile_feed_append c plain
    by_cases feed : c = '\n'
    · subst feed
      simp [after, next, plain, column]
      omega
    · simp [after, next, feed, plain, column]
      omega

theorem after_append (p : Position) (first last : List Char) :
    p.after (first ++ last) = (p.after first).after last := by
  induction first generalizing p with
  | nil => rfl
  | cons c first ih => rw [List.cons_append, after_cons, ih, after_cons]

/-- Passing the characters of a run one by one is passing the run. -/
theorem foldl_next (p : Position) (run : List Char) : run.foldl next p = p.after run := by
  induction run generalizing p with
  | nil => rfl
  | cons c run ih => rw [List.foldl_cons, ih, after_cons]

end Scenario.Position
