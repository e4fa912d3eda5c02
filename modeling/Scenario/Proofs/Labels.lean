import Mathlib.Data.List.SplitBy
import Scenario.Proofs.Grouping
import Scenario.Proofs.Printing

/-! # Labels of a source

A label begins with a star, and a bar goes on with it, but no token tells which of the two stands
before it. The builder of a script and the printer infer from the offsets whether a segment goes on
with the label before it, each in its own way: the builder forgets a label at any other token, the
printer only at prose. Both come to what the source says (`opener_label`, `Recalls.continues_iff`),
so that the labels of a script are the starred labels of the source and the printer writes each of
them once. The main statement is `parse_labels`.
-/

namespace Scenario.Grouping

open Shape Adjacency Tiling

/-! ## Stretches of a source -/

theorem slice_append {source : String} {start middle stop : Int} (front : start ≤ middle)
    (back : middle ≤ stop) :
    slice source start middle ++ slice source middle stop = slice source start stop := by
  have inner : source.toList.take middle.toNat =
      (source.toList.take stop.toNat).take middle.toNat := by
    rw [List.take_take, Nat.min_eq_left (by omega)]
  have between : middle.toNat = start.toNat + (middle.toNat - start.toNat) := by omega
  rw [slice, slice, slice, inner, ← String.ofList_append, List.drop_take]
  congr 1
  nth_rewrite 2 [between]
  rw [← List.drop_drop, List.take_append_drop]

/-- The character right before a token is the stretch of length one there. -/
theorem slice_opener {source : String} {token : Token} {c : Char}
    (occurs : Occurs source.toList token) (opened : opener source.toList token = some c) :
    slice source (token.start - 1) token.start = String.singleton c := by
  obtain ⟨lower, inside, upper⟩ := occurs.bounds
  obtain ⟨front, split⟩ := List.getLast?_eq_some_iff.1 opened
  have length := congrArg List.length split
  rw [List.length_take, List.length_append, List.length_singleton] at length
  have before : (token.start - 1).toNat = front.length := by omega
  rw [slice, split, before, List.drop_left]
  rfl

/-- Segments one character apart, with a bar before each but the first, are one stretch. The
induction also keeps that the stretch does not end before it starts. -/
theorem slice_segments {source : String} {first : Token} {more : List Token}
    (occurs : ∀ token ∈ first :: more, Occurs source.toList token)
    (chain : (first :: more).IsChain fun one next => next.start = one.stop + 1)
    (bars : ∀ token ∈ more, opener source.toList token = some '|') :
    first.start ≤ (more.getLastD first).stop ∧
      slice source first.start (more.getLastD first).stop =
        "|".intercalate ((first :: more).map (·.value)) := by
  induction more generalizing first with
  | nil =>
    have here := occurs first List.mem_cons_self
    exact ⟨here.bounds.2.1, by simpa using here.value_eq_slice.symm⟩
  | cons next more ih =>
    rw [List.isChain_cons_cons] at chain
    rw [List.forall_mem_cons] at bars occurs
    obtain ⟨ordered, rest⟩ := ih occurs.2 chain.2 bars.2
    have bar := slice_opener (occurs.2 next List.mem_cons_self) bars.1
    have stop : next.start - 1 = first.stop := by
      have start := chain.1
      omega
    have inside := occurs.1.bounds.2.1
    rw [stop] at bar
    rw [List.getLastD_cons]
    refine ⟨by omega, ?_⟩
    calc slice source first.start (more.getLastD next).stop
        = slice source first.start first.stop ++ slice source first.stop next.start ++
            slice source next.start (more.getLastD next).stop := by
          rw [slice_append inside (by omega), slice_append (by omega) ordered]
      _ = first.value ++ "|" ++ "|".intercalate ((next :: more).map (·.value)) := by
          rw [rest, bar, ← occurs.1.value_eq_slice]
          rfl
      _ = "|".intercalate ((first :: next :: more).map (·.value)) :=
          String.intercalate_cons_cons.symm

/-! ## Labels among the blocks -/

/-- The segments of a block that is a label. -/
def Block.segments? : Block → Option (List Token)
  | .label first more => some (first :: more)
  | .tag _ | .prose _ _ => none

theorem Block.Formed.exists_label {block : Block} (formed : block.Formed)
    (label : block.last.kind = .label) : ∃ first more, block = .label first more := by
  cases block with
  | label first more => exact ⟨first, more, rfl⟩
  | tag alone => cases formed.symm.trans label
  | prose first more =>
    rcases formed.kind_prose (prose first more).last_mem_tokens with text | ⟨tag, -⟩
    · cases text.symm.trans label
    · cases tag.symm.trans label

/-- The segments of a block are the labels among its tokens. -/
theorem Block.Formed.filter_label {block : Block} (formed : block.Formed) :
    block.tokens.filter (·.kind = .label) = block.segments?.toList.flatten := by
  cases block with
  | label first more =>
    have all : (label first more).tokens.filter (·.kind = .label) = (label first more).tokens := by
      rw [List.filter_eq_self]
      intro token member
      simpa using formed.1 token member
    rw [all, segments?, Option.toList_some, List.flatten_singleton]
    rfl
  | tag alone =>
    have kind : alone.kind = .tag := formed
    simp [segments?, tokens, Block.first, Block.more, kind]
  | prose first more =>
    rw [segments?, Option.toList_none, List.flatten_nil, List.filter_eq_nil_iff]
    intro token member
    rcases formed.kind_prose member with text | ⟨tag, -⟩
    · simp [text]
    · simp [tag]

theorem filter_label {cut : List Block} (formed : ∀ block ∈ cut, block.Formed) :
    (cut.flatMap Block.tokens).filter (·.kind = .label) =
      (cut.filterMap Block.segments?).flatten := by
  induction cut with
  | nil => rfl
  | cons block cut ih =>
    rw [List.forall_mem_cons] at formed
    rw [List.flatMap_cons, List.filter_append, formed.1.filter_label, ih formed.2]
    cases same : block.segments? with
    | none => rw [List.filterMap_cons_none same, Option.toList_none, List.flatten_nil,
        List.nil_append]
    | some label => rw [List.filterMap_cons_some same, Option.toList_some, List.flatten_singleton,
        List.flatten_cons]

/-- A relation that looks only at the second element holds along a list whose tail has it. -/
theorem isChain_of_forall {α : Type} {p : α → Prop} {x : α} {l : List α} (all : ∀ y ∈ l, p y) :
    (x :: l).IsChain fun _ y => p y := by
  induction l generalizing x with
  | nil => exact .singleton x
  | cons next l ih =>
    rw [List.forall_mem_cons] at all
    exact .cons_cons all.1 (ih all.2)

/-- Segments put together to labels: one behind a bar goes on with the label before it, and any
other begins a label. -/
def labelsOf (source : String) (tokens : List Token) : List (List Token) :=
  (tokens.filter (·.kind = .label)).splitBy fun _ next => opener source.toList next == some '|'

section Laid

variable {options : Options} {source : String} {front : List Token} {last : Token}
  (laid : Laid options source front last)
include laid

/-- The offsets give away the characters: a star before the first segment of a block, and a bar
before each other. -/
theorem opener_label {first : Token} {more : List Token}
    (member : .label first more ∈ blocks none front) :
    opener source.toList first = some '*' ∧
      ∀ token ∈ more, opener source.toList token = some '|' := by
  obtain ⟨labels, chain⟩ := formed_of_mem_blocks member
  obtain ⟨inside, between⟩ := isChain_laid laid
  constructor
  · have label := labels first List.mem_cons_self
    rcases head?_or_exists_rel between member with isHead | ⟨before, there, apart, adjacent⟩
    · exact (laid.first first (head_laid laid isHead)).2 label
    · rcases adjacent.label label with ⟨-, kind, start⟩ | ⟨star, -⟩
      -- A bar would have made the segment a part of the block before.
      · obtain ⟨other, rest, rfl⟩ := (formed_of_mem_blocks there).exists_label kind
        have joins := (@Block.extend?_label other first rest _).2 ⟨⟨label, start⟩, rfl⟩
        cases joins.symm.trans apart
      · exact star
  · intro token isMore
    obtain ⟨one, isOne, adjacent, start⟩ :=
      exists_rel_of_isChain (isChain_and (inside _ member) chain) isMore
    rcases adjacent.label (labels token (List.mem_cons_of_mem first isMore)) with
      ⟨bar, -⟩ | ⟨-, beyond⟩
    · exact bar
    · have further := beyond (labels one isOne)
      omega

theorem opener_segments {label : List Token}
    (member : label ∈ (blocks none front).filterMap Block.segments?) :
    ∃ first more, label = first :: more ∧ .label first more ∈ blocks none front ∧
      opener source.toList first = some '*' ∧
      ∀ token ∈ more, opener source.toList token = some '|' := by
  obtain ⟨block, there, same⟩ := List.mem_filterMap.1 member
  cases block with
  | label first more =>
    cases same
    exact ⟨first, more, rfl, there, opener_label laid there⟩
  | _ => cases same

/-- The labels among the blocks are those that the source shows by stars and bars. -/
theorem segments_laid :
    labelsOf source (front ++ [last]) = (blocks none front).filterMap Block.segments? := by
  have none : [last].filter (·.kind = .label) = [] := by simp [laid.ended.1]
  rw [labelsOf, List.filter_append, none, List.append_nil, List.splitBy_eq_iff]
  refine ⟨?_, ?_, ?_, ?_⟩
  · nth_rewrite 1 [← tokens_laid laid]
    exact filter_label fun _ => formed_of_mem_blocks
  · intro empty
    obtain ⟨first, more, same, -⟩ := opener_segments laid empty
    cases same
  · intro label member
    obtain ⟨first, more, rfl, -, -, bars⟩ := opener_segments laid member
    apply isChain_of_forall
    intro token isMore
    simp [bars token isMore]
  · refine (List.pairwise_of_forall_mem_list ?_).isChain
    intro one isOne next isNext
    obtain ⟨first, more, rfl, -⟩ := opener_segments laid isOne
    obtain ⟨second, rest, rfl, -, star, -⟩ := opener_segments laid isNext
    exact ⟨by simp, by simp, by simp [star]⟩

theorem slice_label {first : Token} {more : List Token}
    (member : .label first more ∈ blocks none front) :
    first.start ≤ (more.getLastD first).stop ∧
      slice source first.start (more.getLastD first).stop =
        "|".intercalate ((first :: more).map (·.value)) := by
  have formed : (Block.label first more).Formed := formed_of_mem_blocks member
  have occurs : ∀ token ∈ first :: more, Occurs source.toList token :=
    fun _ => occurs_of_mem_tokens laid member
  exact slice_segments occurs formed.2 (opener_label laid member).2

/-- A label with its star. -/
theorem slice_starred {first : Token} {more : List Token}
    (member : .label first more ∈ blocks none front) :
    slice source (first.start - 1) (more.getLastD first).stop =
      "*" ++ "|".intercalate ((first :: more).map (·.value)) := by
  obtain ⟨ordered, segments⟩ := slice_label laid member
  have occurs : Occurs source.toList first := occurs_of_mem_tokens laid member List.mem_cons_self
  have star := slice_opener occurs (opener_label laid member).1
  rw [← slice_append (by omega) ordered, segments, star]
  rfl

end Laid

/-- Whether a star stands right before a segment. -/
def starred (source : String) (token : Token) : Bool :=
  token.kind = .label ∧ opener source.toList token = some '*'

end Scenario.Grouping

/-! ## The printer -/

namespace Scenario.WebGal

open Shape Adjacency Grouping

/-- The statements of a token in a source. -/
def statementsOf (source : String) (token : Token) : List Statement :=
  match token.kind with
  | .text => (sayings token.value).map .say
  | .label => if opener source.toList token = some '*' then [.label token.value] else []
  | .tag | .endOfInput => []

namespace Printer

theorem receive_of_not_accepts {p : Printer} {token : Token} (other : ¬accepts token = true) :
    p.receive token = p := by
  cases kind : token.kind with
  | text | label => simp [accepts, kind] at other
  | tag | endOfInput => simp [receive, statements, kind]

@[simp] theorem toList_written_receive (p : Printer) (token : Token) :
    (p.receive token).written.toList = p.written.toList ++ p.statements token := by
  simp [receive]

/-- A printer that sees only what it accepts writes what it would write if it saw all. -/
theorem foldl_filter_accepts (p : Printer) (tokens : List Token) :
    (tokens.filter accepts).foldl receive p = tokens.foldl receive p := by
  induction tokens generalizing p with
  | nil => rfl
  | cons token tokens ih =>
    by_cases accepted : accepts token = true
    · rw [List.filter_cons_of_pos accepted, List.foldl_cons, List.foldl_cons, ih]
    · rw [List.filter_cons_of_neg accepted, List.foldl_cons, ih,
        receive_of_not_accepts accepted]

/-- What a printer remembers behind a token: where that token stops if it is a segment, and else at
most a place before it. -/
def Recalls (p : Printer) (previous : Token) : Prop :=
  if previous.kind = .label then p.labelStop = some previous.stop
  else ∀ stop ∈ p.labelStop, stop < previous.start

theorem Recalls.of_label {p : Printer} {token : Token} (label : token.kind = .label) :
    (p.receive token).Recalls token := by
  rw [Recalls, if_pos label]
  simp [Printer.receive, label]

section Step

variable {options : Options} {source : String} {p : Printer} {previous token : Token}
  (recalls : p.Recalls previous) (adjacent : Adjacent options source.toList previous token)
include recalls adjacent

/-- What is remembered does not reach the next token, unless a bar alone is between them. -/
theorem Recalls.continues_iff (label : token.kind = .label) :
    p.continues token = true ↔ opener source.toList token = some '|' := by
  unfold Recalls at recalls
  unfold continues
  rcases adjacent.label label with ⟨bar, kind, start⟩ | ⟨star, beyond⟩
  · rw [if_pos kind] at recalls
    simp [recalls, bar, start]
  · rw [star]
    simp only [Option.any_eq_true, Option.some.injEq, decide_eq_true_eq]
    constructor
    · rintro ⟨stop, there, start⟩
      by_cases kind : previous.kind = .label
      · rw [if_pos kind] at recalls
        cases there.symm.trans recalls
        have further := beyond kind
        omega
      · rw [if_neg kind] at recalls
        have before := recalls stop there
        have onward := adjacent.onward (by simp [label])
        omega
    · intro same
      contradiction

/-- Only prose makes the printer forget. Behind a tag it keeps where the label before it stops. -/
theorem Recalls.receive (other : token.kind ≠ .endOfInput) : (p.receive token).Recalls token := by
  by_cases label : token.kind = .label
  · exact .of_label label
  · have onward := adjacent.onward other
    have closed := adjacent.closed
    rw [Recalls, if_neg label]
    intro stop there
    cases kind : token.kind with
    | label | endOfInput => contradiction
    | text => simp [Printer.receive, kind] at there
    | tag =>
      have same : p.labelStop = some stop := by simpa [Printer.receive, kind] using there
      unfold Recalls at recalls
      by_cases before : previous.kind = .label
      · rw [if_pos before, same, Option.some.injEq] at recalls
        have behind := closed before
        omega
      · rw [if_neg before] at recalls
        have behind := recalls stop same
        omega

end Step

theorem statements_eq {source : String} {p : Printer} {token : Token}
    (continues : token.kind = .label →
      (p.continues token = true ↔ opener source.toList token = some '|'))
    (opened : token.kind = .label →
      opener source.toList token = some '|' ∨ opener source.toList token = some '*') :
    p.statements token = statementsOf source token := by
  unfold statements statementsOf
  cases kind : token.kind with
  | text | tag | endOfInput => rfl
  | label =>
    rcases opened kind with bar | star
    · have joins := (continues kind).2 bar
      simp [joins, bar]
    · have apart : p.continues token = false := by
        rw [← Bool.not_eq_true, continues kind, star]
        simp
      simp [apart, star]

/-- The induction carries what the printer remembers of the token before. -/
theorem written_foldl {options : Options} {source : String} {p : Printer} {previous : Token}
    {rest : List Token} (recalls : p.Recalls previous)
    (chain : (previous :: rest).IsChain (Adjacent options source.toList))
    (other : ∀ token ∈ rest, token.kind ≠ .endOfInput) :
    (rest.foldl receive p).written.toList =
      p.written.toList ++ rest.flatMap (statementsOf source) := by
  induction rest generalizing p previous with
  | nil => simp
  | cons token rest ih =>
    rw [List.isChain_cons_cons] at chain
    rw [List.forall_mem_cons] at other
    have step := statements_eq (recalls.continues_iff chain.1)
      fun label => (chain.1.label label).imp And.left And.left
    rw [List.foldl_cons, ih (recalls.receive chain.1 other.1) chain.2 other.2,
      toList_written_receive, step, List.flatMap_cons, List.append_assoc]

/-- A fresh printer remembers nothing. -/
theorem recalls_fresh (token : Token) : (receive {} token).Recalls token := by
  by_cases label : token.kind = .label
  · exact .of_label label
  · rw [Recalls, if_neg label]
    cases kind : token.kind with
    | label => contradiction
    | text | tag | endOfInput => simp [receive, kind]

end Printer

/-- The names among the statements are those of the segments with a star. -/
theorem names_flatMap (source : String) (tokens : List Token) :
    (tokens.flatMap (statementsOf source)).filterMap Statement.name? =
      (tokens.filter (starred source)).map (·.value) := by
  induction tokens with
  | nil => rfl
  | cons token tokens ih =>
    have one : (statementsOf source token).filterMap Statement.name? =
        ([token].filter (starred source)).map (·.value) := by
      cases kind : token.kind with
      | tag | endOfInput => simp [statementsOf, starred, kind]
      | text =>
        have said : ((sayings token.value).map Statement.say).filterMap Statement.name? = [] := by
          simp [List.filterMap_map, Statement.name?, Function.comp_def]
        simp [statementsOf, starred, kind, said]
      | label =>
        by_cases star : opener source.toList token = some '*'
        · simp [statementsOf, starred, kind, star, Statement.name?]
        · simp [statementsOf, starred, kind, star]
    have whole : token :: tokens = [token] ++ tokens := rfl
    rw [List.flatMap_cons, List.filterMap_append, ih, one, whole, List.filter_append,
      List.map_append]

theorem plain_of_mem_statementsOf {options : Options} {source : String} {token : Token}
    (content : Content options source.toList token) {statement : Statement}
    (member : statement ∈ statementsOf source token) : statement.Plain := by
  unfold Content at content
  cases kind : token.kind with
  | tag | endOfInput => simp [statementsOf, kind] at member
  | text =>
    simp only [statementsOf, kind, List.mem_map] at member
    obtain ⟨line, said, rfl⟩ := member
    exact plain_of_mem_sayings said
  | label =>
    rw [kind] at content
    simp only [statementsOf, kind] at member
    split at member
    · rw [List.mem_singleton.1 member]
      exact content
    · simp at member

section Laid

variable {options : Options} {source : String} {front : List Token} {last : Token}
  (laid : Laid options source front last)
include laid

theorem ofTokens_laid :
    ofTokens (front ++ [last]) = (front.foldl Printer.receive {}).written.toList := by
  have ended : ¬Printer.accepts last = true := by simp [Printer.accepts, laid.ended.1]
  rw [ofTokens, Printer.foldl_filter_accepts, List.foldl_append, List.foldl_cons, List.foldl_nil,
    Printer.receive_of_not_accepts ended]

/-- A printer writes what the tokens give one by one. -/
theorem ofTokens_eq_flatMap :
    ofTokens (front ++ [last]) = (front ++ [last]).flatMap (statementsOf source) := by
  have ended : [last].flatMap (statementsOf source) = [] := by
    simp [statementsOf, laid.ended.1]
  rw [ofTokens_laid laid, List.flatMap_append, ended, List.append_nil]
  have chain := laid.chain.left_of_append
  have kind := laid.kind
  have head := laid.first
  cases front with
  | nil => rfl
  | cons first rest =>
    rw [List.forall_mem_cons] at kind
    have star := (head first rfl).2
    have step : Printer.statements {} first = statementsOf source first := by
      apply Printer.statements_eq
      · intro label
        simp [Printer.continues, star label]
      · exact fun label => .inr (star label)
    rw [List.foldl_cons, Printer.written_foldl (Printer.recalls_fresh first) chain kind.2,
      Printer.toList_written_receive, step, List.flatMap_cons]
    rfl

theorem plain_laid : ∀ statement ∈ (front ++ [last]).flatMap (statementsOf source),
    statement.Plain := by
  intro statement member
  obtain ⟨token, isToken, there⟩ := List.mem_flatMap.1 member
  rcases List.mem_append.1 isToken with inFront | isLast
  · exact plain_of_mem_statementsOf (laid.content token inFront) there
  · rw [List.mem_singleton.1 isLast] at there
    simp [statementsOf, laid.ended.1] at there

theorem labelLines_laid :
    labelLines (render (ofTokens (front ++ [last]))) =
      (front.filter (starred source)).map fun token => "label:" ++ token.value ++ ";" := by
  have ended : [last].filter (starred source) = [] := by simp [starred, laid.ended.1]
  have plain : ∀ statement ∈ (front ++ [last]).flatMap (statementsOf source),
      '\n' ∉ statement.line :=
    fun statement member => (plain_laid laid statement member).not_mem_line
  rw [ofTokens_eq_flatMap laid, labelLines_render plain, names_flatMap, List.filter_append, ended,
    List.append_nil, List.map_map]
  rfl

end Laid

end Scenario.WebGal

/-! ## Scripts and printed scripts -/

namespace Scenario.Grouping

open Shape Adjacency Tiling

/-- The names of a statement that is a label. -/
def names? : Statement → Option (List String)
  | .label _ names => some names
  | .tag _ | .prose _ _ _ => none

theorem names?_statement (block : Block) :
    names? block.statement = block.segments?.map (·.map (·.value)) := by
  cases block <;> rfl

/-- The starred segments are the first ones of the labels. -/
theorem filter_starred {options : Options} {source : String} {front : List Token} {last : Token}
    (laid : Laid options source front last) :
    front.filter (starred source) =
      ((blocks none front).filterMap Block.segments?).filterMap List.head? := by
  have star (token : Token) : starred source token =
      (decide (opener source.toList token = some '*') && decide (token.kind = .label)) := by
    rw [starred, Bool.decide_and, Bool.and_comm]
  calc front.filter (starred source)
      = (front.filter (·.kind = .label)).filter (opener source.toList · = some '*') := by
        rw [List.filter_filter]
        exact List.filter_congr fun token _ => star token
    _ = ((blocks none front).filterMap Block.segments?).flatten.filter
          (opener source.toList · = some '*') := by
        rw [← filter_label fun _ => formed_of_mem_blocks, tokens_laid laid]
    _ = ((blocks none front).filterMap Block.segments?).filterMap List.head? := by
        rw [List.filter_flatten, List.filterMap_eq_flatMap_toList List.head?, ← List.flatMap_def]
        apply List.flatMap_congr
        intro label member
        obtain ⟨first, more, rfl, -, star, bars⟩ := opener_segments laid member
        have none : more.filter (opener source.toList · = some '*') = [] := by
          rw [List.filter_eq_nil_iff]
          intro token isMore
          simp [bars token isMore]
        rw [List.filter_cons_of_pos (by simpa using star), none]
        rfl

/-- A script and a printed script have the labels of a source. -/
structure Labelled (source : String) (tokens : List Token) (script : Script) (output : String) :
    Prop where
  opened : ∀ token ∈ tokens, token.kind = .label →
    opener source.toList token = some '|' ∨ opener source.toList token = some '*'
  /-- A segment becomes a part of the label before it just if a bar stands before the segment. -/
  merged : ∃ cut : List Block, script.statements = cut.map Block.statement ∧
    cut.flatMap Block.tokens = tokens.filter (·.kind ≠ .endOfInput) ∧
    cut.filterMap Block.segments? = labelsOf source tokens
  /-- Each star begins a label. -/
  stars : (labelsOf source tokens).filterMap List.head? = tokens.filter (starred source)
  /-- The segments of a label are what stands between its star and its bars. -/
  segments : ∀ label ∈ labelsOf source tokens, ∃ first more, label = first :: more ∧
    slice source (first.start - 1) (more.getLastD first).stop =
      "*" ++ "|".intercalate (label.map (·.value)) ∧
    ∀ token ∈ label, '|' ∉ token.value.toList
  names : script.statements.filterMap names? = (labelsOf source tokens).map (·.map (·.value))
  /-- What is printed as a label is the first name of each. -/
  printed : WebGal.labelLines output =
    (script.statements.filterMap names?).map fun names => "label:" ++ names.headD "" ++ ";"

theorem labelled_of_laid {options : Options} {source : String} {front : List Token} {last : Token}
    (laid : Laid options source front last) (span : Span) :
    Labelled source (front ++ [last]) ⟨span, (blocks none front).map Block.statement⟩
      (WebGal.render (WebGal.ofTokens (front ++ [last]))) := by
  have labels := segments_laid laid
  have names : ((blocks none front).map Block.statement).filterMap names? =
      (labelsOf source (front ++ [last])).map (·.map (·.value)) := by
    rw [labels, List.filterMap_map, List.map_filterMap]
    exact List.filterMap_congr fun block _ => names?_statement block
  have stars : (labelsOf source (front ++ [last])).filterMap List.head? =
      front.filter (starred source) := by
    rw [labels, filter_starred laid]
  have ended : [last].filter (starred source) = [] := by simp [starred, laid.ended.1]
  constructor
  case opened =>
    intro token member label
    have inLabels : token ∈ (labelsOf source (front ++ [last])).flatten := by
      rw [labelsOf, List.flatten_splitBy, List.mem_filter]
      exact ⟨member, by simpa using label⟩
    obtain ⟨segments, there, inside⟩ := List.mem_flatten.1 inLabels
    rw [labels] at there
    obtain ⟨first, more, rfl, -, star, bars⟩ := opener_segments laid there
    rcases List.mem_cons.1 inside with rfl | isMore
    · exact .inr star
    · exact .inl (bars token isMore)
  case merged =>
    refine ⟨_, rfl, ?_, labels.symm⟩
    rw [tokens_blocks]
    simp [laid.ended.1]
  case stars => rw [stars, List.filter_append, ended, List.append_nil]
  case segments =>
    intro label member
    rw [labels] at member
    obtain ⟨first, more, rfl, there, -⟩ := opener_segments laid member
    refine ⟨first, more, rfl, slice_starred laid there, ?_⟩
    intro token inside
    have content := laid.content token (mem_of_mem_tokens laid there inside)
    have formed : (Block.label first more).Formed := formed_of_mem_blocks there
    rw [Content, formed.1 token inside] at content
    exact content.1
  case names => exact names
  case printed =>
    rw [WebGal.labelLines_laid laid, names, ← stars, List.map_filterMap, List.map_map,
      ← List.filterMap_eq_map]
    apply List.filterMap_congr
    intro label member
    rw [labels] at member
    obtain ⟨first, more, rfl, -⟩ := opener_segments laid member
    rfl

/-- Every source that is read to its end has a script and a printed script, and both have the labels
of the source. -/
theorem parse_labels {source : String} {file : Option String} {options : Options}
    {tokens : List Token} (ok : tokenize source file options = .ok tokens) :
    ∃ script output, parse source file options = .ok script ∧
      toWebGal source file options = .ok output ∧ Labelled source tokens script output := by
  have printed : toWebGal source file options = .ok (WebGal.render (WebGal.ofTokens tokens)) := by
    rw [toWebGal, ok]
    rfl
  obtain ⟨front, last, rfl, laid⟩ := exists_laid ok
  exact ⟨_, _, parse_laid laid ok, printed, labelled_of_laid laid _⟩

/-- Labels with and without names, right behind each other but for a carriage return, behind a tag,
and behind prose. -/
theorem parse_labels_close :
    ∃ tokens script output,
      tokenize "*a||\r*\n[u]*|b\n  x\n*c|\n" none { skipBlanks := true } = .ok tokens ∧
      parse "*a||\r*\n[u]*|b\n  x\n*c|\n" none { skipBlanks := true } = .ok script ∧
      toWebGal "*a||\r*\n[u]*|b\n  x\n*c|\n" none { skipBlanks := true } = .ok output ∧
      Labelled "*a||\r*\n[u]*|b\n  x\n*c|\n" tokens script output ∧
      script.statements.filterMap names? = [["a", ""], [""], ["", "b"], ["c"]] ∧
      WebGal.labelLines output = ["label:a;", "label:;", "label:;", "label:c;"] := by
  have ok : tokenize "*a||\r*\n[u]*|b\n  x\n*c|\n" none { skipBlanks := true } = .ok
      [{ kind := .label, value := "a", column := 2, start := 1, stop := 2 },
        { kind := .label, value := "", column := 4, start := 3, stop := 3 },
        { kind := .label, value := "", column := 7, start := 6, stop := 6 },
        { kind := .tag, value := "u", line := 2, column := 2, start := 8, stop := 9 },
        { kind := .label, value := "", line := 2, column := 5, start := 11, stop := 11 },
        { kind := .label, value := "b", line := 2, column := 6, start := 12, stop := 13 },
        { kind := .text, value := "x\n", line := 3, column := 3, start := 16, stop := 18 },
        { kind := .label, value := "c", line := 4, column := 2, start := 19, stop := 20 },
        { kind := .endOfInput, value := "", line := 5, column := 1, start := 22, stop := 22 }] := by
    cbv
  obtain ⟨script, output, parsed, printed, labelled⟩ := parse_labels ok
  have names := labelled.names
  have lines := labelled.printed
  rw [names] at lines
  exact ⟨_, script, output, ok, parsed, printed, labelled, names, lines⟩

end Scenario.Grouping
