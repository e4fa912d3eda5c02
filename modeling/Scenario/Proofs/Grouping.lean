import Scenario.Proofs.Adjacency
import Scenario.Proofs.Stacking
import Scenario.Tree.Walk

/-! # Scripts made of blocks

The statements of a script are the blocks of its tokens, for any tokens whatever. This module adds
what a walk over the script meets, and what is special about blocks when the tokens are those of a
source: tokens are adjacent inside blocks and between them (`isChain_laid`), so that no run of prose
comes right behind another, and every inline tag is inside one. The main statement is
`script_partition`.
-/

namespace Scenario.Grouping

open Shape Adjacency Tiling

/-! ## Tags of a script -/

/-- The tags of a statement: itself, or those inside it. -/
def tagsIn : Statement → List Tag
  | .label _ _ => []
  | .tag alone => [alone]
  | .prose _ _ tags => tags

section Visit

variable {α : Type} (handler : Node → α)

private theorem callsAll_tags (tags : List Tag) :
    Visitor.callsAll { tag := some handler } (tags.map Tag.toNode) =
      tags.map fun tag => handler tag.toNode := by
  induction tags with
  | nil => rfl
  | cons tag tags ih =>
    simp only [List.map_cons, Visitor.callsAll, ih]
    rfl

private theorem calls_statement (statement : Statement) :
    Visitor.calls { tag := some handler } statement.toNode =
      (tagsIn statement).map fun tag => handler tag.toNode := by
  cases statement with
  | label span names => rfl
  | tag alone => rfl
  | prose span text tags => exact callsAll_tags handler tags

/-- A walk with a handler for tags alone calls it on all tags in their order. -/
theorem calls_script (script : Script) :
    Visitor.calls { tag := some handler } script.toNode =
      (script.statements.flatMap tagsIn).map fun tag => handler tag.toNode := by
  have below (statements : List Statement) :
      Visitor.callsAll { tag := some handler } (statements.map Statement.toNode) =
        (statements.flatMap tagsIn).map fun tag => handler tag.toNode := by
    induction statements with
    | nil => rfl
    | cons statement statements ih =>
      simp only [List.map_cons, Visitor.callsAll, calls_statement, ih, List.flatMap_cons,
        List.map_append]
  exact below script.statements

end Visit

theorem tagsOf_eq_nil {tokens : List Token} (other : ∀ token ∈ tokens, token.kind ≠ .tag) :
    tagsOf tokens = [] := by
  simpa [tagsOf] using other

theorem Block.Formed.tagsIn_statement {block : Block} (formed : block.Formed) :
    tagsIn block.statement = tagsOf block.tokens := by
  cases block with
  | label first more =>
    refine (tagsOf_eq_nil ?_).symm
    intro token member
    simp [formed.1 token member]
  | tag alone => exact (proseOf_tag formed).2.symm
  | prose first more => rfl

/-- The tags of the statements are the tags among the tokens. -/
theorem tagsIn_blocks (tokens : List Token) :
    ((blocks none tokens).map Block.statement).flatMap tagsIn = tagsOf tokens := by
  calc ((blocks none tokens).map Block.statement).flatMap tagsIn
      = (blocks none tokens).flatMap fun block => tagsOf block.tokens := by
        rw [List.flatMap_map]
        exact List.flatMap_congr fun block member => (formed_of_mem_blocks member).tagsIn_statement
    _ = tagsOf ((blocks none tokens).flatMap Block.tokens) := by
        simp [tagsOf, List.filter_flatMap, List.map_flatMap]
    _ = tagsOf tokens := by
        rw [tokens_blocks, tagsOf, tagsOf, Option.toList_none, List.flatMap_nil, List.nil_append,
          List.filter_filter]
        congr 2
        funext token
        cases token.kind <;> rfl

/-! ## Blocks of a source -/

theorem Block.last_mem_tokens (block : Block) : block.last ∈ block.tokens :=
  List.mem_of_getLast? block.getLast?_tokens

theorem Block.Formed.kind_prose {first token : Token} {more : List Token}
    (formed : (Block.prose first more).Formed) (inside : token ∈ first :: more) :
    token.kind = .text ∨ token.kind = .tag ∧ token.inline = true := by
  rcases List.mem_cons.1 inside with rfl | isMore
  · exact .inl formed.1
  · exact formed.2 token isMore

theorem Block.Formed.exists_prose {block : Block} (formed : block.Formed)
    (text : block.last.kind = .text) : ∃ first more, block = .prose first more := by
  cases block with
  | label first more => simp [formed.1 _ (label first more).last_mem_tokens] at text
  | tag alone => cases formed.symm.trans text
  | prose first more => exact ⟨first, more, rfl⟩

/-- What holds between adjacent tokens holds inside blocks and between them. -/
theorem isChain_tokens_iff {r : Token → Token → Prop} {cut : List Block} :
    (cut.flatMap Block.tokens).IsChain r ↔
      (∀ block ∈ cut, block.tokens.IsChain r) ∧
        cut.IsChain fun one next => r one.last next.first := by
  have full : [] ∉ cut.map Block.tokens := by simp [Block.tokens]
  have between : (fun one next : Block =>
      ∀ x ∈ one.tokens.getLast?, ∀ y ∈ next.tokens.head?, r x y) =
        fun one next => r one.last next.first := by
    funext one next
    have first : next.tokens.head? = some next.first := rfl
    simp [Block.getLast?_tokens, first]
  rw [List.flatMap_def, List.isChain_flatten full, List.isChain_map, between]
  simp

theorem isChain_and {α : Type} {r q : α → α → Prop} {l : List α} (one : l.IsChain r)
    (other : l.IsChain q) : l.IsChain fun x y => r x y ∧ q x y := by
  rw [List.isChain_iff_getElem] at one other ⊢
  exact fun i bound => ⟨one i bound, other i bound⟩

/-- In a chain each element but the first comes right after another. -/
theorem exists_rel_of_isChain {α : Type} {r : α → α → Prop} {x : α} {l : List α}
    (chain : (x :: l).IsChain r) {y : α} (member : y ∈ l) : ∃ z ∈ x :: l, r z y := by
  induction l generalizing x with
  | nil => simp at member
  | cons next l ih =>
    rw [List.isChain_cons_cons] at chain
    rcases List.mem_cons.1 member with rfl | member
    · exact ⟨x, List.mem_cons_self, chain.1⟩
    · obtain ⟨z, there, related⟩ := ih chain.2 member
      exact ⟨z, List.mem_cons_of_mem x there, related⟩

theorem head?_or_exists_rel {α : Type} {r : α → α → Prop} {l : List α} (chain : l.IsChain r)
    {y : α} (member : y ∈ l) : l.head? = some y ∨ ∃ z ∈ l, r z y := by
  cases l with
  | nil => simp at member
  | cons x l =>
    rcases List.mem_cons.1 member with rfl | member
    · exact .inl rfl
    · exact .inr (exists_rel_of_isChain chain member)

section Laid

variable {options : Options} {source : String} {front : List Token} {last : Token}
  (laid : Laid options source front last)
include laid

theorem tokens_laid : (blocks none front).flatMap Block.tokens = front := by
  rw [tokens_blocks]
  simpa using laid.kind

theorem mem_of_mem_tokens {block : Block} {token : Token} (member : block ∈ blocks none front)
    (inside : token ∈ block.tokens) : token ∈ front := by
  rw [← tokens_laid laid]
  exact List.mem_flatMap_of_mem member inside

theorem occurs_of_mem_tokens {block : Block} {token : Token} (member : block ∈ blocks none front)
    (inside : token ∈ block.tokens) : Occurs source.toList token :=
  laid.occurs token (mem_of_mem_tokens laid member inside)

/-- Blocks of a source: inside and between them tokens are adjacent, and none goes on with the
next. -/
theorem isChain_laid :
    (∀ block ∈ blocks none front,
      block.tokens.IsChain (Adjacent options source.toList)) ∧
      (blocks none front).IsChain fun one next =>
        one.Apart next ∧ Adjacent options source.toList one.last next.first := by
  have chain := laid.chain.left_of_append
  rw [← tokens_laid laid, isChain_tokens_iff] at chain
  obtain ⟨inside, between⟩ := chain
  exact ⟨inside, isChain_and (@isChain_blocks none _ laid.kind).1 between⟩

/-- The first block begins with the first token. -/
theorem head_laid {block : Block} (isHead : (blocks none front).head? = some block) :
    front.head? = some block.first := by
  have whole := tokens_laid laid
  cases cut : blocks none front with
  | nil => simp [cut] at isHead
  | cons head rest =>
    rw [cut] at isHead whole
    cases isHead
    rw [← whole]
    rfl

/-- A tag of its own is not inline: prose right before it would have taken it in. -/
theorem inline_alone {token : Token} (member : Block.tag token ∈ blocks none front) :
    token.inline = false := by
  by_contra inline
  rw [Bool.not_eq_false] at inline
  rcases head?_or_exists_rel (isChain_laid laid).2 member with
    isHead | ⟨before, there, apart, adjacent⟩
  · have link := (laid.first token (head_laid laid isHead)).1
    obtain ⟨-, -, other, none, -⟩ := link.inline.1 inline
    cases none
  · obtain ⟨-, -, other, same, text, -⟩ := adjacent.link.inline.1 inline
    cases same
    obtain ⟨first, more, rfl⟩ := (formed_of_mem_blocks there).exists_prose text
    have tag : token.kind = .tag := formed_of_mem_blocks member
    have joins := (@Block.extend?_prose first token more _).2 ⟨.inr ⟨tag, inline⟩, rfl⟩
    rw [Block.Apart] at apart
    cases joins.symm.trans apart

theorem mem_tags_of_inline {token : Token} (member : token ∈ front) (kind : token.kind = .tag)
    (inline : token.inline = true) :
    ∃ first more, .prose first more ∈ blocks none front ∧ tagOf token ∈ tagsOf (first :: more) := by
  rw [← tokens_laid laid, List.mem_flatMap] at member
  obtain ⟨block, there, inside⟩ := member
  cases block with
  | label first more =>
    have other := (formed_of_mem_blocks there).1 token inside
    rw [kind] at other
    cases other
  | tag alone =>
    obtain rfl : token = alone := List.mem_singleton.1 inside
    rw [inline_alone laid there] at inline
    contradiction
  | prose first more =>
    refine ⟨first, more, there, List.mem_map_of_mem ?_⟩
    rw [List.mem_filter]
    exact ⟨inside, by simpa using kind⟩

theorem parse_laid {file : Option String}
    (ok : tokenize source file options = .ok (front ++ [last])) :
    parse source file options = .ok ⟨wholeSpan last, (blocks none front).map Block.statement⟩ :=
  parse_eq_ok_iff.2 ⟨_, ok, ofTokens?_eq_some laid.ended.1 (by simp)⟩

end Laid

/-- The script of a source is made of the blocks of its tokens. -/
theorem exists_laid_of_parse {source : String} {file : Option String} {options : Options}
    {script : Script} (ok : parse source file options = .ok script) :
    ∃ front last, tokenize source file options = .ok (front ++ [last]) ∧
      Laid options source front last ∧
      script = ⟨wholeSpan last, (blocks none front).map Block.statement⟩ := by
  obtain ⟨tokens, scanned, -⟩ := parse_eq_ok_iff.1 ok
  obtain ⟨front, last, rfl, laid⟩ := exists_laid scanned
  exact ⟨front, last, scanned, laid, Except.ok.inj (ok.symm.trans (parse_laid laid scanned))⟩

/-- Whether a statement is a run of prose. -/
def isRun : Statement → Bool
  | .prose _ _ _ => true
  | _ => false

/-- Prose right behind prose belongs to it. -/
theorem isChain_statements {tokens : List Token}
    (other : ∀ token ∈ tokens, token.kind ≠ .endOfInput) :
    ((blocks none tokens).map Block.statement).IsChain fun one next =>
      ¬(isRun one = true ∧ isRun next = true) := by
  rw [List.isChain_map]
  refine (@isChain_blocks none _ other).1.imp_of_mem_imp ?_
  rintro one next - isNext apart ⟨run, again⟩
  cases one with
  | prose first more =>
    cases next with
    | prose second rest =>
      have text := (formed_of_mem_blocks isNext).1
      have joins := (@Block.extend?_prose first second more _).2 ⟨.inl text, rfl⟩
      cases joins.symm.trans apart
    | _ => cases again
  | _ => cases run

/-- Whatever tokens a builder receives, it puts them into blocks one after another and loses,
doubles and moves none. Before the end of the input there is no script, and from then on it is that
of the last end. A builder with a stack gives the same and is never stuck, and a walk that looks for
tags meets just those among the tokens. The tokens of a source moreover leave no run behind another,
and put every inline tag into one. -/
theorem script_partition (tokens : List Token) :
    (∃ stack, tokens.foldlM Stack.receive {} = some stack ∧
      stack.script = Script.ofTokens? tokens) ∧
    (Script.ofTokens? tokens = none ↔ ∀ token ∈ tokens, token.kind ≠ .endOfInput) ∧
    (∀ front last rest, tokens = front ++ last :: rest → last.kind = .endOfInput →
      (∀ token ∈ rest, token.kind ≠ .endOfInput) →
      ∃ script, ∃ cut : List Block, Script.ofTokens? tokens = some script ∧
        script.statements = cut.map Block.statement ∧ (∀ block ∈ cut, block.Formed) ∧
        cut.flatMap Block.tokens = front.filter (·.kind ≠ .endOfInput) ∧
        ∀ (α : Type) (handler : Node → α),
          (Visitor.visit { tag := some handler } script.toNode).2 =
            (front.filter (·.kind = .tag)).map fun token =>
              handler (.tag token.span token.value)) ∧
    (∀ source file options, tokenize source file options = .ok tokens →
      ∃ script, Script.ofTokens? tokens = some script ∧
        (script.statements.IsChain fun one next => ¬(isRun one = true ∧ isRun next = true)) ∧
        ∀ token ∈ tokens, token.kind = .tag → token.inline = true →
          ∃ span text tags, .prose span text tags ∈ script.statements ∧ tagOf token ∈ tags) := by
  refine ⟨?_, ofTokens?_eq_none_iff, ?_, ?_⟩
  · have fresh : Stack.Matches {} {} := ⟨rfl, rfl, ⟨rfl, rfl⟩, fun _ => ⟨rfl, rfl⟩⟩
    obtain ⟨stack, run, agree⟩ := Stack.exists_foldlM fresh tokens
    exact ⟨stack, run, agree.script⟩
  · rintro front last rest rfl ended other
    refine ⟨_, blocks none front, ofTokens?_eq_some ended other, rfl,
      fun _ => formed_of_mem_blocks, by simp [tokens_blocks], ?_⟩
    intro α handler
    rw [Visitor.visit, calls_script, tagsIn_blocks, tagsOf, List.map_map]
    rfl
  · intro source file options ok
    obtain ⟨front, last, rfl, laid⟩ := exists_laid ok
    refine ⟨_, ofTokens?_eq_some laid.ended.1 (by simp), isChain_statements laid.kind, ?_⟩
    intro token member kind inline
    have inFront : token ∈ front := by
      rcases List.mem_append.1 member with member | member
      · exact member
      · rw [List.mem_singleton.1 member, laid.ended.1] at kind
        cases kind
    obtain ⟨first, more, there, inside⟩ := mem_tags_of_inline laid inFront kind inline
    exact ⟨_, _, _, List.mem_map_of_mem there, inside⟩

/-- A label, the end of the input, a segment right behind it, prose with a tag inside, another tag,
and the end again. The first end keeps the segment from the label. -/
def restarted : List Token :=
  [{ kind := .label, value := "a", start := 1, stop := 2 },
    { kind := .label, value := "b", start := 3, stop := 4 },
    { kind := .endOfInput, value := "", start := 4, stop := 4 },
    { kind := .label, value := "c", start := 5, stop := 6 },
    { kind := .text, value := "x", start := 7, stop := 8 },
    { kind := .tag, value := "t", inline := true, start := 9, stop := 10 },
    { kind := .text, value := "y", start := 11, stop := 12 },
    { kind := .tag, value := "u", start := 13, stop := 14 },
    { kind := .endOfInput, value := "", start := 15, stop := 15 }]

theorem script_partition_restarted :
    (∃ script, ∃ cut : List Block, Script.ofTokens? restarted = some script ∧
      script.statements.map isRun = [false, false, true, false] ∧
      script.statements = cut.map Block.statement ∧ (∀ block ∈ cut, block.Formed) ∧
      (cut.flatMap Block.tokens).map (·.value) = ["a", "b", "c", "x", "t", "y", "u"] ∧
      (Visitor.visit { tag := some (·.span.offset) } script.toNode).2 = [9, 13]) ∧
    ∃ tokens script, tokenize "x[t]\n[u]" none {} = .ok tokens ∧
      Script.ofTokens? tokens = some script ∧
      (script.statements.IsChain fun one next => ¬(isRun one = true ∧ isRun next = true)) ∧
      ∀ token ∈ tokens, token.kind = .tag → token.inline = true →
        ∃ span text tags, .prose span text tags ∈ script.statements ∧ tagOf token ∈ tags := by
  constructor
  · obtain ⟨-, -, partition, -⟩ := script_partition restarted
    obtain ⟨script, cut, same, statements, formed, whole, visits⟩ :=
      partition (restarted.take 8) _ [] rfl rfl (by simp)
    have made : (Script.ofTokens? restarted).map (·.statements.map isRun) =
        some [false, false, true, false] := by
      decide
    rw [same] at made
    refine ⟨script, cut, same, Option.some.inj made, statements, formed, ?_, visits _ _⟩
    rw [whole]
    rfl
  · have ok : tokenize "x[t]\n[u]" none {} = .ok
        [{ kind := .text, value := "x", column := 1, start := 0, stop := 1 },
          { kind := .tag, value := "t", inline := true, column := 3, start := 2, stop := 3 },
          { kind := .text, value := "\n", column := 5, start := 4, stop := 5 },
          { kind := .tag, value := "u", line := 2, column := 2, start := 6, stop := 7 },
          { kind := .endOfInput, value := "", line := 2, column := 4, start := 8, stop := 8 }] := by
      cbv
    obtain ⟨-, -, -, source⟩ := script_partition _
    obtain ⟨script, same, chain, inline⟩ := source _ _ _ ok
    exact ⟨_, script, ok, same, chain, inline⟩

end Scenario.Grouping
