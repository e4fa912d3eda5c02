import Mathlib.Data.List.Chain
import Scenario.Proofs.Execution

/-! # Scenarios written from items

A scenario can be written item by item: prose, directives, tags and labels, each with the delimiters
that the format asks for. Reading what was written gives the items back (`tokenize_render`).
-/

namespace Scenario.Outline

open Grammar

/-- The ends of lines that are written. -/
inductive LineEnd where
  | feed
  | carriageFeed
  deriving DecidableEq

/-- The characters of an end of line. -/
def LineEnd.chars : LineEnd → List Char
  | .feed => ['\n']
  | .carriageFeed => ['\r', '\n']

/-- What a scenario is written from. -/
inductive Item where
  | text (value : String)
  | directive (body : String) (lineEnd : LineEnd)
  | bracket (body : String)
  /-- A label with its names, and perhaps a bar after the last of them. -/
  | label (names : List String) (bar : Bool) (lineEnd : LineEnd)
  deriving DecidableEq

/-- What a token says: its kind, its value and whether it is inline. -/
abbrev Content := Kind × String × Bool

namespace Item

/-- The item as it is written. -/
def render : Item → List Char
  | .text value => value.toList
  | .directive body lineEnd => '@' :: body.toList ++ lineEnd.chars
  | .bracket body => '[' :: body.toList ++ [']']
  | .label names bar lineEnd =>
      '*' :: ['|'].intercalate (names.map String.toList) ++
        ((if bar then ['|'] else []) ++ lineEnd.chars)

/-- What the format asks of an item. -/
def Valid : Item → Prop
  | .text value =>
      value ≠ "" ∧ '@' ∉ value.toList ∧ '*' ∉ value.toList ∧ bracketsPaired value.toList = true
  | .directive body _ => '\r' ∉ body.toList ∧ '\n' ∉ body.toList
  | .bracket body => ']' ∉ body.toList ∧ body.toList.head? ≠ some '['
  | .label names bar _ =>
      names ≠ [] ∧
      (∀ name ∈ names, '|' ∉ name.toList ∧ '\r' ∉ name.toList ∧ '\n' ∉ name.toList) ∧
      (bar = false → 2 ≤ names.length → names.getLast? ≠ some "")

instance : DecidablePred Valid
  | .text _ => inferInstanceAs (Decidable (_ ∧ _ ∧ _ ∧ _))
  | .directive _ _ => inferInstanceAs (Decidable (_ ∧ _))
  | .bracket _ => inferInstanceAs (Decidable (_ ∧ _))
  | .label _ _ _ => inferInstanceAs (Decidable (_ ∧ _ ∧ (_ → _ → _)))

/-- Whether the item is prose. -/
def isText : Item → Bool
  | .text _ => true
  | _ => false

/-- Whether the item is prose that does not end a line. -/
def isOpenText : Item → Bool
  | .text value => !endsInNewline value.toList
  | _ => false

/-- The tokens that the item stands for, where a bracket is inline or not. -/
def contents (inline : Bool) : Item → List Content
  | .text value => [(.text, value, false)]
  | .directive body _ => [(.tag, body, false)]
  | .bracket body => [(.tag, body, inline)]
  | .label names _ _ => names.map fun name => (.label, name, false)

end Item

/-- A scenario as it is written. -/
def render (items : List Item) : String := String.ofList (items.flatMap Item.render)

/-- Every item is as the format asks, and no two stretches of prose meet. -/
def WellFormed (items : List Item) : Prop :=
  (∀ item ∈ items, item.Valid) ∧ items.IsChain fun item next => ¬(item.isText ∧ next.isText)

instance (items : List Item) : Decidable (WellFormed items) :=
  inferInstanceAs (Decidable (_ ∧ _))

/-- The tokens that items stand for after a previous item: a bracket is inline just after prose
that does not end a line. -/
def contents : Option Item → List Item → List Content
  | _, [] => []
  | previous, item :: rest =>
      item.contents (previous.any Item.isOpenText) ++ contents (some item) rest

/-! ## What items read as

The rest of a scenario stands at a position that depends on all before it, so the lemmas here say
what a text reads as from any position. -/

/-- The kind, the value and the inline mark of a token. -/
def content (token : Token) : Content := (token.kind, token.value, token.inline)

/-- The content of the last token. -/
def endContent : Content := (.endOfInput, "", false)

/-- From any position in a context, a text reads completely and as tokens of the given contents. -/
def ReadsAs (options : Options) (file : Option String) (context : Context) (s : List Char)
    (contents : List Content) : Prop :=
  ∀ p, ∃ reading, Reads options file context p s reading ∧ reading.ending = .complete ∧
    reading.tokens.map content = contents

section Pieces

variable {options : Options} {file : Option String} {context after : Context}
  {rest : List Char} {contents : List Content}

/-- Nothing has to be passed in any context. -/
private theorem leads_nil : context.Leads options [] := by
  cases context <;> simp [Context.Leads]

theorem ReadsAs.piece {piece : Piece} (lexeme : Lexeme options context piece after rest)
    (reads : ReadsAs options file after rest contents) :
    ReadsAs options file context (piece.chars ++ rest)
      ((piece.kind, String.ofList piece.value, piece.inline) :: contents) := by
  intro p
  obtain ⟨reading, reads, complete, same⟩ := reads (p.after piece.chars)
  refine ⟨_, .piece lexeme reads, complete, ?_⟩
  simpa [Reading.cons, content, Piece.token, Position.token] using same

theorem endsLine_chars (lineEnd : LineEnd) (rest : List Char) : EndsLine lineEnd.chars rest := by
  cases lineEnd
  · exact .inl rfl
  · exact .inr (.inl rfl)

variable (free : context ≠ .label)
include free

theorem readsAs_nil : ReadsAs options file context [] [endContent] := by
  intro p
  exact ⟨_, .complete free leads_nil, rfl, rfl⟩

theorem readsAs_directive {body : String} {lineEnd : LineEnd}
    (valid : (Item.directive body lineEnd).Valid)
    (reads : ReadsAs options file .line rest contents) :
    ReadsAs options file context ((Item.directive body lineEnd).render ++ rest)
      ((.tag, body, false) :: contents) := by
  have inside : ∀ c ∈ body.toList, Delimiter.isNewline c = false := by
    intro c member
    have carriage : c ≠ '\r' := fun same => valid.1 (same ▸ member)
    have feed : c ≠ '\n' := fun same => valid.2 (same ▸ member)
    simp [Delimiter.isNewline, carriage, feed]
  have lexeme : Lexeme options context _ .line rest :=
    .directive free leads_nil inside (endsLine_chars lineEnd rest)
  simpa [Item.render, Piece.chars, Piece.gap] using reads.piece lexeme

theorem readsAs_bracket {body : String} (valid : (Item.bracket body).Valid)
    (reads : ReadsAs options file .line rest contents) :
    ReadsAs options file context ((Item.bracket body).render ++ rest)
      ((.tag, body, context.inline) :: contents) := by
  have inside : ∀ c ∈ body.toList, c ≠ ']' := by
    rintro c member rfl
    exact valid.1 member
  have lexeme : Lexeme options context _ .line rest :=
    .tag free leads_nil inside valid.2
  simpa [Item.render, Piece.chars, Piece.gap] using reads.piece lexeme

end Pieces

theorem readsAs_text {options : Options} {file : Option String} {rest : List Char}
    {contents : List Content} {value : String} (keep : options.skipBlanks = false)
    (valid : (Item.text value).Valid) (stops : stopsProse rest = true)
    (reads : ReadsAs options file (.prose !(endsInNewline value.toList)) rest contents) :
    ReadsAs options file .line ((Item.text value).render ++ rest)
      ((.text, value, false) :: contents) := by
  obtain ⟨content, prose⟩ := valid
  have lexeme : Lexeme options .line _ (.prose !(endsInNewline value.toList)) rest :=
    .text leads_nil (by simpa using content) (isProse_iff.2 prose) stops (by simp [keep])
  simpa [Item.render, Piece.chars, Piece.gap] using reads.piece lexeme

/-- What opens an item that is not prose ends prose. -/
theorem stopsProse_render {item : Item} (valid : item.Valid) (markup : item.isText = false)
    (rest : List Char) : stopsProse (item.render ++ rest) = true := by
  cases item with
  | text value => contradiction
  | directive body lineEnd => rfl
  | label names bar lineEnd => rfl
  | bracket body =>
    rw [Item.render, List.cons_append, List.cons_append, stopsProse_cons]
    refine ⟨rfl, fun _ => ?_⟩
    have single := valid.2
    cases chars : body.toList with
    | nil => simp
    | cons c tail => simpa [chars] using single

/-- What is written after the first name of a label. -/
private def writeNames (lineEnd : List Char) : List String → List Char
  | [] => lineEnd
  | name :: names => '|' :: (name.toList ++ writeNames lineEnd names)

private theorem intercalate_names (lineEnd : List Char) (name : String) (names : List String) :
    ['|'].intercalate ((name :: names).map String.toList) ++ lineEnd =
      name.toList ++ writeNames lineEnd names := by
  induction names generalizing name with
  | nil => simp [writeNames, List.intercalate]
  | cons next names ih =>
    rw [writeNames, ← ih]
    simp [List.intercalate]

private theorem render_label (name : String) (names : List String) (bar : Bool)
    (lineEnd : LineEnd) (rest : List Char) :
    (Item.label (name :: names) bar lineEnd).render ++ rest =
      ['*'] ++ (name.toList ++
        (writeNames ((if bar then ['|'] else []) ++ lineEnd.chars) names ++ rest)) := by
  rw [Item.render, List.cons_append, intercalate_names]
  simp

/-- A name can follow a bar unless it is empty and the line ends right after it. -/
private theorem fits_name {lineEnd rest : List Char} {name : String} {names : List String}
    (inside : ∀ c ∈ name.toList, Delimiter.endsSegment c = false)
    (last : (name :: names).getLast? = some "" → lineEnd.head? = some '|') :
    Context.label.Fits (name.toList ++ (writeNames lineEnd names ++ rest)) := by
  cases chars : name.toList with
  | cons c tail =>
    have plain := inside c (by simp [chars])
    simp only [Delimiter.endsSegment, Bool.or_eq_false_iff] at plain
    exact ⟨c, rfl, plain.2⟩
  | nil =>
    refine ⟨'|', ?_, rfl⟩
    cases names with
    | cons next names => rfl
    | nil =>
      have empty : name = "" := by simpa using chars
      have bar := last (by simp [empty])
      cases lineEnd with
      | nil => simp at bar
      | cons c tail => simpa [writeNames] using bar

/-- The names of a label read as one token each. The induction is on the names after the first,
each of which stands after a bar; only the first has an opening. -/
private theorem readsAs_names {options : Options} {file : Option String} {context : Context}
    {opening lineEnd rest : List Char} {contents : List Content}
    (segment : ∀ {after value closing rest}, (∀ c ∈ value, Delimiter.endsSegment c = false) →
      SegmentEnd closing after rest →
      Lexeme options context { opening, kind := .label, value, closing } after rest)
    (name : String) (names : List String)
    (inside : ∀ other ∈ name :: names, ∀ c ∈ other.toList, Delimiter.endsSegment c = false)
    (last : names.getLast? = some "" → lineEnd.head? = some '|')
    (ends : SegmentEnd lineEnd .line rest) (reads : ReadsAs options file .line rest contents) :
    ReadsAs options file context
      (opening ++ (name.toList ++ (writeNames lineEnd names ++ rest)))
      ((name :: names).map (fun other => (.label, other, false)) ++ contents) := by
  induction names generalizing context opening name with
  | nil =>
    have lexeme := segment (inside name (by simp)) ends
    simpa [Piece.chars, Piece.gap, writeNames] using reads.piece lexeme
  | cons next names ih =>
    have following : ∀ other ∈ next :: names, ∀ c ∈ other.toList,
        Delimiter.endsSegment c = false := fun other member =>
      inside other (List.mem_cons_of_mem _ member)
    have fits : Context.label.Fits (next.toList ++ (writeNames lineEnd names ++ rest)) :=
      fits_name (following next (by simp)) last
    have later : names.getLast? = some "" → lineEnd.head? = some '|' := by
      intro empty
      apply last
      rw [List.getLast?_cons, empty]
      rfl
    have reads := ih (fun inside ends => .segment inside ends) next following later
    have lexeme := segment (inside name (by simp)) (.next fits)
    simpa [Piece.chars, Piece.gap, writeNames] using reads.piece lexeme

theorem readsAs_label {options : Options} {file : Option String} {context : Context}
    {rest : List Char} {contents : List Content} {names : List String} {bar : Bool}
    {lineEnd : LineEnd} (free : context ≠ .label) (valid : (Item.label names bar lineEnd).Valid)
    (reads : ReadsAs options file .line rest contents) :
    ReadsAs options file context ((Item.label names bar lineEnd).render ++ rest)
      (names.map (fun name => (.label, name, false)) ++ contents) := by
  obtain ⟨content, inside, last⟩ := valid
  cases names with
  | nil => contradiction
  | cons name names =>
    have plain : ∀ other ∈ name :: names, ∀ c ∈ other.toList,
        Delimiter.endsSegment c = false := by
      intro other member c char
      obtain ⟨noBar, noCarriage, noFeed⟩ := inside other member
      have bar : c ≠ '|' := fun same => noBar (same ▸ char)
      have carriage : c ≠ '\r' := fun same => noCarriage (same ▸ char)
      have feed : c ≠ '\n' := fun same => noFeed (same ▸ char)
      simp [Delimiter.endsSegment, Delimiter.isNewline, bar, carriage, feed]
    have ends : SegmentEnd ((if bar then ['|'] else []) ++ lineEnd.chars) .line rest := by
      cases bar with
      | true => exact .bar (endsLine_chars lineEnd rest)
      | false => exact .line (endsLine_chars lineEnd rest)
    have named : names.getLast? = some "" →
        ((if bar then ['|'] else []) ++ lineEnd.chars).head? = some '|' := by
      intro empty
      cases bar with
      | true => rfl
      | false =>
        have several : names ≠ [] := by
          rintro rfl
          simp at empty
        have long : 2 ≤ (name :: names).length := by
          have := List.length_pos_iff.2 several
          simpa
        have ending : (name :: names).getLast? = some "" := by
          rw [List.getLast?_cons, empty]
          rfl
        exact absurd ending (last rfl long)
    rw [render_label]
    exact readsAs_names (fun inside ends => .label free leads_nil inside ends) name names plain
      named ends reads

/-! ## Whole scenarios -/

/-- The context that a previous item leaves. -/
def contextAfter : Option Item → Context
  | some (.text value) => .prose !(endsInNewline value.toList)
  | _ => .line

private theorem contextAfter_ne_label (previous : Option Item) :
    contextAfter previous ≠ .label := by
  fun_cases contextAfter previous <;> simp

private theorem inline_contextAfter (previous : Option Item) :
    (contextAfter previous).inline = previous.any Item.isOpenText := by
  fun_cases contextAfter previous with
  | case1 value => rfl
  | case2 previous markup =>
    cases previous with
    | none => rfl
    | some item =>
      cases item with
      | text value => exact absurd rfl (markup value)
      | _ => rfl

/-- Prose is stopped by the items after it, as the next of them is not prose. -/
private theorem stopsProse_flatMap {items : List Item} (valid : ∀ item ∈ items, item.Valid)
    (markup : ∀ item ∈ items.head?, item.isText = false) :
    stopsProse (items.flatMap Item.render) = true := by
  cases items with
  | nil => rfl
  | cons item items =>
    rw [List.flatMap_cons]
    exact stopsProse_render (valid item (by simp)) (markup item rfl) _

/-- Items read as what they stand for, in the context that the previous item leaves. -/
theorem readsAs_render {options : Options} (file : Option String)
    (keep : options.skipBlanks = false) (items : List Item) (previous : Option Item)
    (valid : ∀ item ∈ items, item.Valid)
    (apart : items.IsChain fun item next => ¬(item.isText ∧ next.isText))
    (first : ∀ item ∈ items.head?, ¬(previous.any Item.isText ∧ item.isText)) :
    ReadsAs options file (contextAfter previous) (items.flatMap Item.render)
      (contents previous items ++ [endContent]) := by
  induction items generalizing previous with
  | nil => exact readsAs_nil (contextAfter_ne_label previous)
  | cons item items ih =>
    have next : ∀ other ∈ items.head?, ¬(item.isText ∧ other.isText) := by
      intro other head
      cases items with
      | nil => simp at head
      | cons second items =>
        obtain rfl : second = other := by simpa using head
        exact (List.isChain_cons_cons.1 apart).1
    have following : ∀ other ∈ items, other.Valid :=
      fun other member => valid other (List.mem_cons_of_mem _ member)
    have reads := ih (some item) following apart.tail next
    have itself := valid item (by simp)
    have free := contextAfter_ne_label previous
    rw [List.flatMap_cons, contents, List.append_assoc]
    cases item with
    | text value =>
      have markup : contextAfter previous = .line := by
        have other : ¬(previous.any Item.isText = true) := fun text => first _ rfl ⟨text, rfl⟩
        fun_cases contextAfter previous with
        | case1 value => exact absurd rfl other
        | case2 => rfl
      have stops := stopsProse_flatMap following
        (fun other head => by simpa [Item.isText] using next other head)
      rw [markup]
      exact readsAs_text keep itself stops reads
    | directive body lineEnd => exact readsAs_directive free itself reads
    | bracket body =>
      rw [← inline_contextAfter]
      exact readsAs_bracket free itself reads
    | label names bar lineEnd => exact readsAs_label free itself reads

/-- Reading what was written from items gives the items back, and then the end of the input. -/
theorem tokenize_render (items : List Item) (wellFormed : WellFormed items)
    (file : Option String) (options : Options) (keep : options.skipBlanks = false) :
    ∃ tokens, tokenize (render items) file options = .ok tokens ∧
      tokens.map content = contents none items ++ [endContent] := by
  obtain ⟨valid, apart⟩ := wellFormed
  have reads := readsAs_render file keep items none valid apart (by simp)
  obtain ⟨reading, reads, complete, same⟩ := reads .start
  refine ⟨reading.tokens, Scan.tokenize_eq_ok_iff.2 ⟨reading, ?_, complete, rfl⟩, same⟩
  rw [render, String.toList_ofList]
  exact reads

/-- Lines end in both ways, prose starts with a line feed and ends with a pair of brackets, and a
tag and some names are empty. -/
theorem tokenize_render_mixed :
    ∃ tokens,
      tokenize
        (render [.directive "bg" .carriageFeed, .text "\na[[", .bracket "",
          .label ["p", "", "q"] false .feed, .label [""] true .carriageFeed, .text "x\r",
          .bracket "l[r"]) none { strictTags := true } = .ok tokens ∧
      tokens.map content =
        [(.tag, "bg", false), (.text, "\na[[", false), (.tag, "", true), (.label, "p", false),
          (.label, "", false), (.label, "q", false), (.label, "", false), (.text, "x\r", false),
          (.tag, "l[r", false), (.endOfInput, "", false)] :=
  tokenize_render
    [.directive "bg" .carriageFeed, .text "\na[[", .bracket "", .label ["p", "", "q"] false .feed,
      .label [""] true .carriageFeed, .text "x\r", .bracket "l[r"]
    (by decide) none { strictTags := true } rfl

end Scenario.Outline
