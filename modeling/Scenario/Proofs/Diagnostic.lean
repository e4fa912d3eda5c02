import Mathlib.Data.List.DropRight
import Scenario.Fault

/-! # The words of a fault

A diagnostic writes its place part by part, each with a colon after it, and then takes all colons
off the end. So the place is the parts with colons between them, less the colons that the last part
ends in (`message_of_known`). Where a line is known the last part is a number and loses nothing, and
a place with a column reads as a span does. A file name that stands alone loses the colons at its
end. The main statement is `message_keeps_place`.
-/

namespace Scenario

namespace Diagnostic

/-! ## Colons at the end of a text -/

/-- Whether a text ends in a colon. -/
def EndsInColon (s : String) : Prop := s.toList.getLast? = some ':'

/-- So many colons. -/
def colons (n : Nat) : String := String.ofList (List.replicate n ':')

theorem toList_dropColons (s : String) :
    (dropColons s).toList = s.toList.rdropWhile (· == ':') := by
  rw [dropColons, String.toList_ofList]
  rfl

theorem dropColons_append_colon (s : String) : dropColons (s ++ ":") = dropColons s := by
  rw [← String.toList_inj, toList_dropColons, toList_dropColons, String.toList_append]
  exact List.rdropWhile_concat_pos _ s.toList ':' rfl

theorem dropColons_eq_self_iff {s : String} : dropColons s = s ↔ ¬EndsInColon s := by
  rw [← String.toList_inj, toList_dropColons, List.rdropWhile_eq_self_iff, EndsInColon]
  constructor
  · intro stops last
    have some : s.toList ≠ [] := by
      intro empty
      simp [empty] at last
    rw [List.getLast?_eq_some_getLast some, Option.some_inj] at last
    exact stops some (by simp [last])
  · intro other some colon
    rw [List.getLast?_eq_some_getLast some, Option.some_inj] at other
    exact other (by simpa using colon)

/-- What is dropped is all the colons at the end, and nothing else. -/
theorem exists_eq_dropColons_append (s : String) :
    ∃ n, s = dropColons s ++ colons n ∧ ¬EndsInColon (dropColons s) := by
  have same : ∀ c ∈ s.toList.rtakeWhile (· == ':'), c = ':' := by
    intro c member
    simpa using List.mem_rtakeWhile_imp member
  refine ⟨(s.toList.rtakeWhile (· == ':')).length, ?_, ?_⟩
  · rw [colons, ← List.eq_replicate_of_mem same, ← String.toList_inj, String.toList_append,
      String.toList_ofList, toList_dropColons, List.rdropWhile_append_rtakeWhile]
  · rw [← dropColons_eq_self_iff, ← String.toList_inj, toList_dropColons, toList_dropColons,
      List.rdropWhile_idempotent]

/-- A number is written with a digit at its end. -/
theorem getLast?_repr (n : Nat) : ∃ c, n.repr.toList.getLast? = some c ∧ c.isDigit = true := by
  have some := List.getLast?_eq_some_getLast (Nat.toDigits_ne_nil : Nat.toDigits 10 n ≠ [])
  rw [Nat.toList_repr]
  refine ⟨_, some, ?_⟩
  exact Nat.isDigit_of_mem_toDigits (by decide) (by decide) (List.getLast_mem _)

/-- Whatever stands before a number, the whole does not end in a colon. -/
theorem not_endsInColon_append_toString (s : String) (i : Int) :
    ¬EndsInColon (s ++ toString i) := by
  have digit : ∃ c, (toString i).toList.getLast? = some c ∧ c.isDigit = true := by
    cases i with
    | ofNat n => exact getLast?_repr n
    | negSucc n =>
      obtain ⟨c, last, digit⟩ := getLast?_repr (n + 1)
      refine ⟨c, ?_, digit⟩
      show ("-" ++ (n + 1).repr).toList.getLast? = some c
      rw [String.toList_append, List.getLast?_append, last]
      rfl
  obtain ⟨c, last, digit⟩ := digit
  rw [EndsInColon, String.toList_append, List.getLast?_append, last]
  rintro ⟨⟩
  exact absurd digit (by decide)

/-! ## The place -/

/-- What is known of a place: the file if it has a name, the line, and the column if the line is
known too. -/
def known (diagnostic : Diagnostic) : List String :=
  [diagnostic.file.filter (· != ""), diagnostic.line.map toString,
    diagnostic.line.bind fun _ => diagnostic.column.map toString].filterMap id

/-- The text behind its place, with all that is known of the place left as it is. -/
def faithful (diagnostic : Diagnostic) : String :=
  if diagnostic.known = [] then diagnostic.text
  else ":".intercalate diagnostic.known ++ " " ++ diagnostic.text

theorem parts_eq_known (diagnostic : Diagnostic) : diagnostic.parts = diagnostic.known := by
  rw [parts, known, Span.named]
  cases diagnostic.file.filter (· != "") <;> cases diagnostic.line <;>
    cases diagnostic.column <;> rfl

/-- Parts that each have a colon after them are parts with colons between, and one more colon. -/
theorem join_append_colon (part : String) (more : List String) :
    String.join ((part :: more).map (· ++ ":")) = ":".intercalate (part :: more) ++ ":" := by
  induction more generalizing part with
  | nil => simp
  | cons next more ih =>
    rw [List.map_cons, String.join_cons, ih, String.intercalate_cons_cons, String.append_assoc,
      String.append_assoc, String.append_assoc]

theorem message_of_known {diagnostic : Diagnostic} (some : diagnostic.known ≠ []) :
    diagnostic.message =
      dropColons (":".intercalate diagnostic.known) ++ " " ++ diagnostic.text := by
  rw [← parts_eq_known] at some ⊢
  rw [message]
  cases parts : diagnostic.parts with
  | nil => exact absurd parts some
  | cons part more =>
    simp only [join_append_colon, dropColons_append_colon]

/-- A message is faithful unless its place ends in a colon. -/
theorem message_eq_faithful_iff (diagnostic : Diagnostic) :
    diagnostic.message = diagnostic.faithful ↔
      ¬EndsInColon (":".intercalate diagnostic.known) := by
  by_cases empty : diagnostic.known = []
  · rw [faithful, if_pos empty, message, parts_eq_known, empty]
    simp [EndsInColon]
  · rw [faithful, if_neg empty, message_of_known empty, String.append_left_inj,
      String.append_left_inj, dropColons_eq_self_iff]

/-- A place is written with a number at its end if its line is known. -/
theorem exists_place_of_line {diagnostic : Diagnostic} {line : Int}
    (lined : diagnostic.line = some line) :
    ∃ (s : String) (i : Int), ":".intercalate diagnostic.known = s ++ toString i := by
  rw [known, lined]
  -- The number is the column if there is one, else the line; a name can only stand before it.
  cases diagnostic.file.filter (· != "") with
  | none =>
    cases diagnostic.column with
    | none => exact ⟨"", line, by simp⟩
    | some column => exact ⟨toString line ++ ":", column, by simp⟩
  | some name =>
    cases diagnostic.column with
    | none => exact ⟨name ++ ":", line, by simp⟩
    | some column =>
      exact ⟨name ++ ":" ++ toString line ++ ":", column, by simp [String.append_assoc]⟩

theorem message_of_line {diagnostic : Diagnostic} {line : Int}
    (lined : diagnostic.line = some line) : diagnostic.message = diagnostic.faithful := by
  obtain ⟨s, i, place⟩ := exists_place_of_line lined
  rw [message_eq_faithful_iff, place]
  exact not_endsInColon_append_toString s i

theorem faithful_of_column {diagnostic : Diagnostic} {line column : Int}
    (lined : diagnostic.line = some line) (columned : diagnostic.column = some column) :
    diagnostic.faithful =
      Span.render { line, column, file := diagnostic.file } ++ " " ++ diagnostic.text := by
  rw [faithful, known, lined, columned, Span.render, Span.named]
  cases diagnostic.file.filter (· != "") with
  | none => simp
  | some name => simp [String.append_assoc]

/-- Where no line is known, nothing is but the name of the file. -/
theorem known_of_name {diagnostic : Diagnostic} {name : String} (unlined : diagnostic.line = none)
    (filed : diagnostic.file = some name) (named : name ≠ "") : diagnostic.known = [name] := by
  simp [known, unlined, filed, Option.filter, named]

theorem endsInColon_place_iff {diagnostic : Diagnostic} (unlined : diagnostic.line = none) :
    EndsInColon (":".intercalate diagnostic.known) ↔
      ∃ name, diagnostic.file = some name ∧ EndsInColon name := by
  cases filed : diagnostic.file with
  | none => simp [known, unlined, filed, EndsInColon]
  | some name =>
    by_cases empty : name = ""
    · simp [known, unlined, filed, empty, Option.filter, EndsInColon]
    · simp [known_of_name unlined filed empty]

/-- A message is faithful unless a file stands in it without a line and has a name that ends in a
colon. A name without a line is always written without the colons at its end, and a place with line
and column is written as a span is. -/
theorem message_keeps_place (diagnostic : Diagnostic) :
    (diagnostic.message = diagnostic.faithful ↔
      ¬(diagnostic.line = none ∧ ∃ name, diagnostic.file = some name ∧ EndsInColon name)) ∧
    (∀ name, diagnostic.line = none → diagnostic.file = some name → name ≠ "" →
      ∃ stem n, name = stem ++ colons n ∧ ¬EndsInColon stem ∧
        diagnostic.message = stem ++ " " ++ diagnostic.text) ∧
    (∀ line column, diagnostic.line = some line → diagnostic.column = some column →
      diagnostic.message =
        Span.render { line, column, file := diagnostic.file } ++ " " ++ diagnostic.text) := by
  refine ⟨?_, ?_, ?_⟩
  · -- Only without a line can the place end in something else than a number.
    cases lined : diagnostic.line with
    | none =>
      rw [message_eq_faithful_iff, endsInColon_place_iff lined]
      simp
    | some line => simp [message_of_line lined]
  · intro name unlined filed named
    have known := known_of_name unlined filed named
    obtain ⟨n, split, stem⟩ := exists_eq_dropColons_append name
    refine ⟨dropColons name, n, split, stem, ?_⟩
    rw [message_of_known (by simp [known]), known, String.intercalate_singleton]
  · intro line column lined columned
    rw [message_of_line lined, faithful_of_column lined columned]

/-- Of three colons at the end of a name all are lost where it stands alone, and none where a line
follows, or a line and a column. -/
theorem message_keeps_place_colons :
    (∃ stem n, "a:::" = stem ++ colons n ∧ ¬EndsInColon stem ∧
      message { text := "bad", file := some "a:::" } = stem ++ " " ++ "bad") ∧
    message { text := "bad", line := some 4, file := some "a:::" } = "a::::4 bad" ∧
    message { text := "bad", line := some 4, column := some (-2), file := some "a:::" } =
      Span.render { line := 4, column := -2, file := some "a:::" } ++ " " ++ "bad" := by
  refine ⟨?_, ?_, ?_⟩
  · exact (message_keeps_place { text := "bad", file := some "a:::" }).2.1 _ rfl rfl (by decide)
  · rw [(message_keeps_place { text := "bad", line := some 4, file := some "a:::" }).1.2 (by simp)]
    decide
  · exact (message_keeps_place _).2.2 4 (-2) rfl rfl

/-- The name `a:` should stand before the text, but its colon is lost. -/
theorem message_name_clipped :
    message { text := "bad", file := some "a:" } = "a bad" ∧
      faithful { text := "bad", file := some "a:" } = "a: bad" ∧
      message { text := "bad", file := some "a:" } ≠
        faithful { text := "bad", file := some "a:" } := by
  decide

end Diagnostic

/-- A fault says its place, and then its cause. -/
theorem Fault.message_eq (fault : Fault) :
    fault.diagnostic.message = fault.place.render ++ " " ++ fault.cause.text := by
  rw [Diagnostic.message_of_line rfl, Diagnostic.faithful_of_column rfl rfl]
  rfl

end Scenario
