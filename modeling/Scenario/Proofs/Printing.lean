import Scenario.WebGal

/-! # Lines of a WebGAL script

Every statement of a WebGAL script is written on a line of its own, with a sign in front that tells
its sort. No line that is said holds a line boundary, so cutting the output at line feeds gives back
the statements one by one (`splitOn_render`), and those that begin with `label:` are the labels
(`labelLines_render`).
-/

namespace Scenario.WebGal

/-! ## What is said -/

theorem not_isBoundary_of_mem_lines {s : List Char} :
    ∀ line ∈ Text.lines s, ∀ c ∈ line, Text.isBoundary c = false := by
  fun_induction Text.lines s with
  | case1 => simp
  | case2 rest ih =>
    intro line member
    rcases List.mem_cons.1 member with rfl | member
    · simp
    · exact ih line member
  | case3 c rest pair boundary ih =>
    intro line member
    rcases List.mem_cons.1 member with rfl | member
    · simp
    · exact ih line member
  | case4 c rest pair plain ih =>
    have first : Text.isBoundary c = false := by simpa using plain
    intro line member
    cases lines : Text.lines rest with
    | nil =>
      rw [lines, Text.consLine, List.mem_singleton] at member
      subst member
      simpa using first
    | cons head tail =>
      rw [lines] at ih
      rw [lines, Text.consLine] at member
      rcases List.mem_cons.1 member with rfl | member
      · intro d inside
        rcases List.mem_cons.1 inside with rfl | inside
        · exact first
        · exact ih head List.mem_cons_self d inside
      · exact ih line (List.mem_cons_of_mem _ member)

theorem trim_sublist (s : List Char) : (Text.trim s).Sublist s := by
  unfold Text.trim
  have inner := (List.dropWhile_sublist (l := (s.dropWhile Text.isSpace).reverse) Text.isSpace)
  have turned := List.reverse_sublist.2 inner
  rw [List.reverse_reverse] at turned
  exact turned.trans (List.dropWhile_sublist _)

/-- What is said holds no line boundary. -/
theorem not_isBoundary_of_mem_sayings {s line : String} (member : line ∈ sayings s) :
    ∀ c ∈ line.toList, Text.isBoundary c = false := by
  simp only [sayings, List.mem_map, List.mem_filter] at member
  obtain ⟨_, ⟨⟨whole, there, rfl⟩, -⟩, rfl⟩ := member
  intro c inside
  rw [String.toList_ofList] at inside
  exact not_isBoundary_of_mem_lines whole there c ((trim_sublist whole).subset inside)

theorem trim_prefix (s : List Char) : Text.trim s <+: s.dropWhile Text.isSpace := by
  rw [Text.trim, ← List.reverse_suffix, List.reverse_reverse]
  exact List.dropWhile_suffix _

theorem isSpace_of_mem_head?_dropWhile {s : List Char} {c : Char}
    (first : c ∈ (s.dropWhile Text.isSpace).head?) : Text.isSpace c = false := by
  have stops := List.head?_dropWhile_not Text.isSpace s
  rw [first] at stops
  simpa using stops

theorem isSpace_head_trim {s : List Char} {c : Char} (first : c ∈ (Text.trim s).head?) :
    Text.isSpace c = false := by
  obtain ⟨rest, whole⟩ := trim_prefix s
  apply isSpace_of_mem_head?_dropWhile (s := s)
  rw [← whole, List.head?_append, first]
  rfl

theorem isSpace_last_trim {s : List Char} {c : Char} (last : c ∈ (Text.trim s).getLast?) :
    Text.isSpace c = false := by
  apply isSpace_of_mem_head?_dropWhile
  rwa [Text.trim, List.getLast?_reverse] at last

/-- What a statement may hold. A line that is said is not blank, and neither begins nor ends with
space nor goes over the end of a line. -/
def Statement.Plain : Statement → Prop
  | .say line =>
      line ≠ "" ∧ (∀ c ∈ line.toList.head?, Text.isSpace c = false) ∧
        (∀ c ∈ line.toList.getLast?, Text.isSpace c = false) ∧
        ∀ c ∈ line.toList, Text.isBoundary c = false
  | .label name => '|' ∉ name.toList ∧ '\r' ∉ name.toList ∧ '\n' ∉ name.toList

theorem plain_of_mem_sayings {s line : String} (said : line ∈ sayings s) :
    (Statement.say line).Plain := by
  have boundary := not_isBoundary_of_mem_sayings said
  simp only [sayings, List.mem_map, List.mem_filter] at said
  obtain ⟨_, ⟨⟨whole, -, rfl⟩, content⟩, rfl⟩ := said
  refine ⟨?_, ?_, ?_, boundary⟩
  · intro empty
    have none := congrArg String.toList empty
    rw [String.toList_ofList] at none
    simp [none] at content
  · intro c first
    rw [String.toList_ofList] at first
    exact isSpace_head_trim first
  · intro c last
    rw [String.toList_ofList] at last
    exact isSpace_last_trim last

/-! ## Lines of the output -/

/-- The line of a statement, without the line feed. -/
def Statement.line : Statement → List Char
  | .say line => (":" ++ line ++ ";").toList
  | .label name => ("label:" ++ name ++ ";").toList

theorem Statement.Plain.not_mem_line {statement : Statement} (plain : statement.Plain) :
    '\n' ∉ statement.line := by
  cases statement with
  | say line =>
    intro inside
    have feed : '\n' ∈ line.toList := by simpa [Statement.line] using inside
    have boundary := plain.2.2.2 _ feed
    contradiction
  | label name => simpa [Statement.line] using plain.2.2

theorem toList_render (statement : Statement) :
    statement.render.toList = statement.line ++ ['\n'] := by
  cases statement with
  | say line => simp [Statement.render, Statement.line]
  | label name => simp [Statement.render, Statement.line]

theorem toList_render_eq (statements : List Statement) :
    (render statements).toList = ['\n'].intercalate (statements.map Statement.line ++ [[]]) := by
  induction statements with
  | nil => rfl
  | cons statement statements ih =>
    have whole : render (statement :: statements) = statement.render ++ render statements := by
      simp [render]
    have more : statements.map Statement.line ++ [[]] ≠ [] := by simp
    rw [whole, String.toList_append, toList_render, ih, List.map_cons, List.cons_append,
      List.intercalate_cons_of_ne_nil more]

theorem splitOn_render {statements : List Statement}
    (plain : ∀ statement ∈ statements, '\n' ∉ statement.line) :
    (render statements).toList.splitOn '\n' = statements.map Statement.line ++ [[]] := by
  rw [toList_render_eq]
  apply List.splitOn_intercalate
  · intro line member
    rcases List.mem_append.1 member with member | member
    · obtain ⟨statement, there, rfl⟩ := List.mem_map.1 member
      exact plain statement there
    · simp [List.mem_singleton.1 member]
  · simp

/-- The name of a statement that is a label. -/
def Statement.name? : Statement → Option String
  | .say _ => none
  | .label name => some name

/-- The lines of an output that begin as labels do. -/
def labelLines (output : String) : List String :=
  ((output.toList.splitOn '\n').filter ("label:".toList.isPrefixOf ·)).map String.ofList

/-- The lines that begin as labels do are the labels. -/
theorem labelLines_render {statements : List Statement}
    (plain : ∀ statement ∈ statements, '\n' ∉ statement.line) :
    labelLines (render statements) =
      (statements.filterMap Statement.name?).map fun name => "label:" ++ name ++ ";" := by
  rw [labelLines, splitOn_render plain, List.filter_append, List.map_append]
  have last : ([[]].filter ("label:".toList.isPrefixOf ·)).map String.ofList = [] := rfl
  rw [last, List.append_nil]
  clear plain
  induction statements with
  | nil => rfl
  | cons statement statements ih =>
    cases statement with
    | say line =>
      have other : ¬"label:".toList.isPrefixOf (Statement.say line).line = true := by
        simp [Statement.line]
      rw [List.map_cons, List.filter_cons_of_neg other, ih]
      rfl
    | label name =>
      have begins : "label:".toList.isPrefixOf (Statement.label name).line = true := by
        rw [List.isPrefixOf_iff_prefix, Statement.line, String.toList_append, String.toList_append,
          List.append_assoc]
        exact List.prefix_append _ _
      have same : String.ofList (Statement.label name).line = "label:" ++ name ++ ";" :=
        String.ofList_toList
      rw [List.map_cons, List.filter_cons_of_pos begins, List.map_cons, ih, same]
      rfl

end Scenario.WebGal
